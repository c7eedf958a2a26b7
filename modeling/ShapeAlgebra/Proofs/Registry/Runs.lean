import ShapeAlgebra.Proofs.Registry
import ShapeAlgebra.Proofs.Text.ByteOrder

/-!
# Registries over whole runs

A program enters types into a registry call by call, each on the registry that the one before
it has left. A call that fails leaves the registry as it found it. What one call does to one
name decides every run: a name keeps the type it starts with, and otherwise the type of the
first call that carries it.
-/
namespace ShapeAlgebra.Registry

/-- A call that is to enter a type. -/
inductive Call where
  | register (name : String) (type : Ty)
  | registerNamed (type : Ty)

namespace Call

/-- The name the call carries. A datashape carries its display name, if it has one. -/
def name? : Call → Option String
  | register name _ => some name
  | registerNamed type => type.name?

def type : Call → Ty
  | register _ type => type
  | registerNamed type => type

end Call

/-- The first of the calls that carries the name. -/
def firstWith (name : String) (calls : List Call) : Option Call :=
  calls.find? fun c => c.name? == some name

/-- The answer to a call, and the registry after it. -/
def call (r : Registry) : Call → Except RegistryError Unit × Registry
  | .register name type => r.register name type
  | .registerNamed type => r.registerNamed type

/-- The registry after some calls, one after the other. -/
def run (r : Registry) (calls : List Call) : Registry :=
  calls.foldl (fun r c => (r.call c).2) r

variable {r : Registry} {c : Call} {name : String}

@[simp] theorem run_nil (r : Registry) : r.run [] = r := rfl

@[simp] theorem run_cons (r : Registry) (c : Call) (calls : List Call) :
    r.run (c :: calls) = (r.call c).2.run calls := rfl

theorem run_append (r : Registry) (calls later : List Call) :
    r.run (calls ++ later) = (r.run calls).run later :=
  List.foldl_append

/-! ## What the observers say -/

theorem lookup_eq_error_iff : r.lookup name = .error (.notFound name) ↔ r.get? name = none := by
  unfold lookup
  cases r.get? name <;> simp

theorem names_perm (r : Registry) : r.names.Perm r.entries.keys :=
  List.mergeSort_perm _ _

theorem mem_names_iff : name ∈ r.names ↔ r.contains name = true := by
  rw [r.names_perm.mem_iff, Std.HashMap.mem_keys, contains, Std.HashMap.contains_iff_mem]

theorem length_names (r : Registry) : r.names.length = r.size :=
  r.names_perm.length_eq.trans Std.HashMap.length_keys

/-- Sorting puts the names in order, and no name is a key twice. -/
theorem pairwise_names (r : Registry) :
    r.names.Pairwise fun a b => Text.bytes a < Text.bytes b := by
  have hsorted : r.names.Pairwise fun a b => decide (a ≤ b) = true := by
    apply List.pairwise_mergeSort
    · intro a b c hab hbc
      exact decide_eq_true (String.le_trans (of_decide_eq_true hab) (of_decide_eq_true hbc))
    · intro a b
      simpa using String.le_total a b
  have hdistinct : r.names.Nodup := r.names_perm.nodup_iff.mpr Std.HashMap.nodup_keys
  apply (hsorted.and hdistinct).imp
  intro a b h
  exact Text.bytes_lt_of_lt (Std.lt_of_le_of_ne (of_decide_eq_true h.1) h.2)

/-- The observers of a registry agree on what it holds. -/
structure Consistent (r : Registry) : Prop where
  lookup : ∀ name t, r.lookup name = .ok t ↔ r.get? name = some t
  notFound : ∀ name, r.lookup name = .error (.notFound name) ↔ r.get? name = none
  contains : ∀ name, r.contains name = (r.get? name).isSome
  size : r.size = r.names.length
  names : ∀ name, name ∈ r.names ↔ r.contains name = true
  sorted : r.names.Pairwise fun a b => Text.bytes a < Text.bytes b

theorem consistent (r : Registry) : r.Consistent where
  lookup _ _ := lookup_eq_ok_iff
  notFound _ := lookup_eq_error_iff
  contains := r.contains_eq_isSome
  size := r.length_names.symm
  names _ := mem_names_iff
  sorted := r.pairwise_names

/-! ## One call -/

/-- The three things that can come of a call. -/
inductive Outcome (r : Registry) (c : Call) : Prop
  | anonymous (hname : c.name? = none) (hcall : r.call c = (.error (.anonymous c.type), r))
  | collision (name : String) (hname : c.name? = some name) (htaken : (r.get? name).isSome = true)
    (hcall : r.call c = (.error (.nameCollision name), r))
  | accepted (name : String) (hname : c.name? = some name) (hfree : r.get? name = none)
    (hcall : r.call c = (.ok (), r.insert name c.type))

theorem call_of_anonymous (r : Registry) (h : c.name? = none) :
    r.call c = (.error (.anonymous c.type), r) := by
  cases c with
  | register n t => cases h
  | registerNamed t =>
    change t.name? = none at h
    change r.registerNamed t = (.error (.anonymous t), r)
    rw [registerNamed, h]

theorem call_of_name? (r : Registry) (h : c.name? = some name) :
    r.call c = r.register name c.type := by
  cases c with
  | register n t =>
    obtain rfl := Option.some.inj h
    rfl
  | registerNamed t =>
    change t.name? = some name at h
    change r.registerNamed t = r.register name t
    rw [registerNamed, h]

theorem outcome (r : Registry) (c : Call) : r.Outcome c := by
  cases hname : c.name? with
  | none => exact .anonymous hname (r.call_of_anonymous hname)
  | some name =>
    have hcall := r.call_of_name? hname
    cases hget : r.get? name with
    | some t =>
      have htaken : (r.get? name).isSome = true := by rw [hget, Option.isSome_some]
      exact .collision name hname htaken (hcall.trans (register_of_taken htaken _))
    | none => exact .accepted name hname hget (hcall.trans (register_of_free hget _))

/-- A call leaves every name that has a type alone, and gives its type to the name that it
carries. -/
theorem get?_call (r : Registry) (c : Call) (n : String) :
    (r.call c).2.get? n = (r.get? n).or (if c.name? = some n then some c.type else none) := by
  cases hname : c.name? with
  | none =>
    rw [r.call_of_anonymous hname, if_neg (by simp), Option.or_none]
  | some name =>
    rw [r.call_of_name? hname, get?_register]
    simp only [Option.some.injEq]

/-- What a registry answers to a call, by the name that the call carries, and that it is the
same registry after a call that fails. -/
structure Answers (r : Registry) (c : Call) : Prop where
  accepted : (r.call c).1 = .ok () ↔ ∃ name, c.name? = some name ∧ r.get? name = none
  collision : ∀ name, (r.call c).1 = .error (.nameCollision name) ↔
    c.name? = some name ∧ (r.get? name).isSome = true
  anonymous : (r.call c).1 = .error (.anonymous c.type) ↔ c.name? = none
  unchanged : ∀ e, (r.call c).1 = .error e → (r.call c).2 = r

theorem answers (r : Registry) (c : Call) : r.Answers c := by
  cases r.outcome c with
  | anonymous hname hcall =>
    exact ⟨by simp [hcall, hname], by simp [hcall, hname], by simp [hcall, hname],
      by simp [hcall]⟩
  | collision name hname htaken hcall =>
    refine ⟨?_, ?_, by simp [hcall, hname], by simp [hcall]⟩
    · simp [hcall, hname, Option.isSome_iff_ne_none.mp htaken]
    · intro n
      rw [hcall, hname, Except.error.injEq, RegistryError.nameCollision.injEq, Option.some.injEq]
      constructor
      · rintro rfl
        exact ⟨rfl, htaken⟩
      · exact And.left
  | accepted name hname hfree hcall =>
    refine ⟨by simp [hcall, hname, hfree], ?_, by simp [hcall, hname], by simp [hcall]⟩
    intro n
    rw [hcall, hname, Option.some.injEq]
    constructor
    · rintro ⟨⟩
    · rintro ⟨rfl, htaken⟩
      rw [hfree] at htaken
      cases htaken

/-! ## Runs -/

/-- By induction on the calls: the first call that carries the name settles it. -/
theorem get?_run (r : Registry) (calls : List Call) (n : String) :
    (r.run calls).get? n = (r.get? n).or ((firstWith n calls).map Call.type) := by
  induction calls generalizing r with
  | nil => simp [firstWith]
  | cons c calls ih =>
    rw [run_cons, ih, get?_call, Option.or_assoc]
    unfold firstWith
    by_cases hname : c.name? = some n
    · simp [hname]
    · simp [hname]

theorem eq_datashape_of_name? {t : Ty} (h : t.name? = some name) :
    ∃ params, t = .datashape params (some name) := by
  cases t with
  | datashape params label =>
    obtain rfl : label = some name := h
    exact ⟨params, rfl⟩
  | _ => cases h

theorem canonical_of_name? {t : Ty} (h : t.name? = some name) : t.canonical = name := by
  obtain ⟨params, rfl⟩ := eq_datashape_of_name? h
  rfl

theorem name?_of_firstWith {calls : List Call} (h : firstWith name calls = some c) :
    c.name? = some name := by
  simpa using List.find?_some h

/-- After any calls a name has the type it started with, or else that of the first call that
carries it; a datashape entered under its own name is shown by that name. Every call on the
way is answered by whether its name is taken at that point, and leaves the registry as it was
if it fails. All the while the observers agree. -/
theorem run_first_wins (r : Registry) (calls : List Call) :
    (∀ n, (r.run calls).get? n = (r.get? n).or ((firstWith n calls).map Call.type)) ∧
      (∀ n t, firstWith n calls = some (.registerNamed t) →
        (∃ params, t = .datashape params (some n)) ∧ t.canonical = n) ∧
      (∀ before c later, calls = before ++ c :: later →
        (r.run before).Answers c ∧ r.run (before ++ [c]) = ((r.run before).call c).2) ∧
      ∀ before, before <+: calls → (r.run before).Consistent := by
  refine ⟨r.get?_run calls, ?_, ?_, fun before _ => (r.run before).consistent⟩
  · intro n t h
    have hname : t.name? = some n := name?_of_firstWith h
    exact ⟨eq_datashape_of_name? hname, canonical_of_name? hname⟩
  · intro before c later _
    exact ⟨(r.run before).answers c, r.run_append before [c]⟩

/-- A datashape that is to be entered under its own name. -/
def sampleVector : Ty := .datashape [.fixed 3, .scalar .float64] (some "Vector")

/-- Calls of which only the third succeeds on the built-in types. -/
def sampleCalls : List Call :=
  [.register "int8" .date, .registerNamed (.datashape [.fixed 3, .scalar .float64] none),
    .registerNamed sampleVector, .register "Vector" .json]

theorem run_first_wins_sampleCalls :
    (builtin.run sampleCalls).get? "Vector" = some sampleVector ∧
      sampleVector.canonical = "Vector" ∧
      (builtin.run sampleCalls).get? "int8" = some (.scalar .int8) ∧
      (builtin.run sampleCalls).Consistent := by
  obtain ⟨hget, hnamed, -, hconsistent⟩ := run_first_wins builtin sampleCalls
  have hfirst : firstWith "Vector" sampleCalls = some (.registerNamed sampleVector) := rfl
  have hfree : builtin.get? "Vector" = none := builtin_get?_eq_none (by decide)
  have htaken : builtin.get? "int8" = some (.scalar .int8) :=
    builtin_get?_scalar (s := .int8) (by decide)
  refine ⟨?_, (hnamed _ _ hfirst).2, ?_, hconsistent _ (List.prefix_refl _)⟩
  · rw [hget, hfree, hfirst]
    rfl
  · rw [hget, htaken, Option.some_or]

end ShapeAlgebra.Registry
