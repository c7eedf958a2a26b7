import ShapeAlgebra.Parameter.Build
import ShapeAlgebra.Proofs.Outcome

/-!
# The places of parameters

A type is made from parameters that are taken in turn, so how many a kind takes depends on how
often its production asks for one. Counting along the production gives the number, and shows
that the parameter taken at each point is the one in a fixed place of the list.
-/
namespace ShapeAlgebra

/-- The kinds that take the given number of parameters. Datashapes and functions take any
number. -/
def Kind.taking : Nat → List Kind
  | 0 => [null, date, bytes, json, var]
  | 1 => [time, datetime, intConst, strConst, fixed, typeVar, ellipsis, record, tuple, option]
  | 2 => [units, string, implements]
  | 3 => [scalar]
  | _ => []

/-- The number of parameters of a kind, if it is the same for all types of the kind. -/
def Kind.arity? (kind : Kind) : Option Nat :=
  (List.range 4).find? fun k => kind ∈ taking k

theorem Kind.arity?_of_mem_taking {kind : Kind} {k : Nat} (h : kind ∈ taking k) :
    kind.arity? = some k := by
  match k with
  | 0 | 1 | 2 | 3 =>
    revert kind
    decide
  | k + 4 => cases h

namespace Parameter

variable {α β : Type}

/-- The computation takes the first `k` parameters, and makes of them what `make` makes of the
parameters in their places. -/
def Reads (k : Nat) (take : Taking α) (make : (Nat → Parameter) → Except Violation α) : Prop :=
  ∀ ps : List Parameter,
    take.run ps = (make fun i => ps.getD i omitted).map fun a => (a, ps.drop k)

namespace Reads

theorem pure (a : α) : Reads 0 (pure a) fun _ => .ok a := fun _ => rfl

theorem lift (x : Except Violation α) : Reads 0 (liftM x) fun _ => x := by
  intro ps
  cases x <;> rfl

theorem next : Reads 1 Taking.next fun arg => .ok (arg 0) := by
  intro ps
  cases ps <;> rfl

/-- What follows finds its places behind the parameters that have been taken. -/
theorem bind {k l : Nat} {take : Taking α} {make : (Nat → Parameter) → Except Violation α}
    {takes : α → Taking β} {makes : α → (Nat → Parameter) → Except Violation β}
    (h : Reads k take make) (hs : ∀ a, Reads l (takes a) (makes a)) :
    Reads (k + l) (take >>= takes) fun arg => make arg >>= fun a => makes a fun i => arg (k + i) := by
  intro ps
  have hplaces : (fun i => (ps.drop k).getD i omitted) = fun i => ps.getD (k + i) omitted := by
    funext i
    rw [List.getD_eq_getElem?_getD, List.getElem?_drop, List.getD_eq_getElem?_getD]
  rw [StateT.run_bind, h ps]
  dsimp only
  cases make fun i => ps.getD i omitted with
  | error cause => rfl
  | ok a =>
    change (takes a).run (ps.drop k) = (makes a fun i => ps.getD (k + i) omitted).map _
    rw [hs a (ps.drop k), hplaces, List.drop_drop]

theorem one (read : Parameter → Except Violation α) :
    Reads 1 (Taking.one read) fun arg => read (arg 0) :=
  next.bind fun p => lift (read p)

end Reads

theorem run_rest_bind (read : List Parameter → Except Violation α)
    (make : α → Except Violation β) (ps : List Parameter) :
    (do liftM (make (← Taking.rest read)) : Taking β).run ps =
      (read ps >>= make).map fun b => (b, []) := by
  change (do
    let p ← (liftM (read ps) : Taking α).run []
    (liftM (make p.1) : Taking β).run p.2) = _
  rw [Reads.lift (read ps) []]
  cases read ps with
  | error cause => rfl
  | ok a => exact Reads.lift (make a) []

end Parameter

namespace Ty

open Parameter

/-- The type of a kind, each of its parameters read in its place. What stands beyond the last
place makes no difference. -/
def build (kind : Kind) (ps : List Parameter) : Except Violation Ty :=
  let slot := Slot.mk kind
  let arg := fun i => ps.getD i .omitted
  match kind with
  | .null => return null
  | .date => return date
  | .bytes => return bytes
  | .json => return json
  | .var => return var
  | .time => return time (← (slot "tz").optionalString (arg 0))
  | .datetime => return datetime (← (slot "tz").optionalString (arg 0))
  | .units => do
    let unit ← (slot "unit").string (arg 0)
    let value ← (slot "tp").optionalType (arg 1)
    makeUnits unit value
  | .string => buildString (arg 0) (arg 1)
  | .scalar => do
    let name ← (slot "name").string (arg 0)
    let size ← (slot "itemsize").unsigned (arg 1)
    let alignment ← (slot "alignment").unsigned (arg 2)
    return scalar ⟨name, size, alignment⟩
  | .intConst => return intConst (← (slot "i").signed (arg 0))
  | .strConst => return strConst (← (slot "s").string (arg 0))
  | .fixed => return fixed (← (slot "i").extent (arg 0))
  | .typeVar => do makeTypeVar (← (slot "symbol").string (arg 0))
  | .ellipsis => return ellipsis (← (slot "typevar").optionalSymbol (arg 0))
  | .datashape => do makeDatashape (← (slot "params").eachType ps)
  | .record => do makeRecord (← (slot "fields").fields (arg 0))
  | .tuple => do makeTuple (← (slot "dshapes").types (arg 0))
  | .function => do makeFunction (← (slot "params").eachType ps)
  | .option => do makeOption (← (slot "ds").type (arg 0))
  | .implements => do
    let symbol ← (slot "typevar").symbol (arg 0)
    let typeset ← (slot "typeset").string (arg 1)
    return implements symbol typeset

/-- The parameters that a production leaves. -/
def left (kind : Kind) (ps : List Parameter) : List Parameter :=
  kind.arity?.elim [] ps.drop

/-- One case per production, by the steps it is made of. -/
theorem run_production (kind : Kind) (ps : List Parameter) :
    (production kind).run ps = (build kind ps).map fun t => (t, left kind ps) := by
  cases kind with
  | null | date | bytes | json | var => exact Reads.pure _ ps
  | time | datetime | intConst | strConst | fixed | ellipsis =>
    exact (Reads.one _).bind (fun _ => Reads.pure _) ps
  | typeVar | record | tuple | option =>
    exact (Reads.one _).bind (fun _ => Reads.lift _) ps
  | units =>
    exact (Reads.one _).bind (fun _ => (Reads.one _).bind fun _ => Reads.lift _) ps
  | string => exact Reads.next.bind (fun _ => Reads.next.bind fun _ => Reads.lift _) ps
  | scalar =>
    exact (Reads.one _).bind (fun _ => (Reads.one _).bind fun _ => (Reads.one _).bind fun _ =>
      Reads.pure _) ps
  | implements =>
    exact (Reads.one _).bind (fun _ => (Reads.one _).bind fun _ => Reads.pure _) ps
  | datashape | function => exact run_rest_bind _ _ ps

theorem isEmpty_left (kind : Kind) (ps : List Parameter) :
    (left kind ps).isEmpty = !kind.arity?.any (· < ps.length) := by
  unfold left
  cases kind.arity? with
  | none => rfl
  | some k =>
    rw [Option.elim_some, Option.any_some, Bool.eq_iff_iff, List.isEmpty_iff,
      List.drop_eq_nil_iff, Bool.not_eq_true', decide_eq_false_iff_not, Nat.not_lt]

/-- The parameters are read in their places, and counted afterwards. -/
theorem ofParameters_eq (kind : Kind) (ps : List Parameter) :
    ofParameters kind ps = do
      let t ← build kind ps
      if kind.arity?.any (· < ps.length) then throw (.arity kind .fewer ps.length)
      return t := by
  rw [ofParameters, run_production]
  cases build kind ps with
  | error cause => rfl
  | ok t =>
    change (if (left kind ps).isEmpty then _ else _) = _
    rw [isEmpty_left]
    cases kind.arity?.any (· < ps.length) <;> rfl

theorem ofParameters_eq_build {kind : Kind} {ps : List Parameter}
    (h : ∀ n ∈ kind.arity?, ps.length ≤ n) : ofParameters kind ps = build kind ps := by
  have hfits : ¬ kind.arity?.any (· < ps.length) = true := by
    rw [Option.any_eq_true_iff_get]
    rintro ⟨hsome, hlt⟩
    have hle := h _ (Option.get_mem hsome)
    exact absurd (of_decide_eq_true hlt) (by omega)
  rw [ofParameters_eq]
  simp only [if_neg hfits]
  exact bind_pure _

/-- What is accepted was built, from no more parameters than the kind takes. -/
theorem build_of_ofParameters {kind : Kind} {ps : List Parameter} {t : Ty}
    (h : ofParameters kind ps = .ok t) :
    build kind ps = .ok t ∧ ∀ n ∈ kind.arity?, ps.length ≤ n := by
  rw [ofParameters_eq] at h
  obtain ⟨u, hu, h⟩ := bind_eq_ok_iff.mp h
  dsimp only at h
  split_ifs at h with hlen
  · cases h
  · obtain rfl := Except.ok.inj h
    refine ⟨hu, ?_⟩
    intro n hn
    rw [Option.mem_def.mp hn, Option.any_some, decide_eq_true_eq] at hlen
    omega

end Ty

end ShapeAlgebra
