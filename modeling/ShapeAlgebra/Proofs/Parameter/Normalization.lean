import ShapeAlgebra.Proofs.Parameter.Reconstruction

/-!
# What building does to parameters

The parameters of a type that was built are the ones it was built from, in the same order,
each in the form its place asks for. Nothing is dropped: parameters that would be left over
are refused, and places left empty at the end are filled.
-/
namespace ShapeAlgebra

namespace Parameter

/-! ## Forms of single parameters -/

/-- A constant as the value it holds. -/
def unwrapped : Parameter → Parameter
  | type (.intConst value) => int value.toInt
  | type (.strConst value) => str value
  | p => p

/-- An encoding by its canonical name, the standard one if it is omitted. -/
def asEncoding : Parameter → Parameter
  | omitted => str Encoding.standard.name
  | str spelling => str ((Encoding.ofAlias? spelling).elim spelling Encoding.name)
  | p => p

/-- A value type, the standard one if it is omitted. -/
def asValueType : Parameter → Parameter
  | omitted => type Ty.standardValue
  | p => p

/-- A symbol as the type variable it names. -/
def asVariable : Parameter → Parameter
  | str symbol => type (.typeVar symbol)
  | p => p

/-- A list of fields, the empty one if it is omitted. -/
def asFieldList : Parameter → Parameter
  | omitted => fields []
  | p => p

/-! ## Parameters of a kind -/

/-- The form of a parameter in each place of a kind. Where a type is asked for, a constant
stays the type it is. -/
def inForm : Kind → Nat → Parameter → Parameter
  | .datashape, _ | .function, _ | .tuple, _ | .option, _ => id
  | .units, 1 => asValueType
  | .string, 1 => fun p => p.unwrapped.asEncoding
  | .ellipsis, 0 | .implements, 0 => asVariable
  | .record, 0 => asFieldList
  | _, _ => unwrapped

/-- Each parameter in its place: a lone string of a string measure is the encoding. -/
def inPlace : Kind → List Parameter → List Parameter
  | .string, [str spelling, omitted] => [omitted, str spelling]
  | .string, [type (.strConst spelling), omitted] => [omitted, type (.strConst spelling)]
  | _, ps => ps

/-- The parameters with missing ones at the end omitted, each in its place and form. -/
def normalized (kind : Kind) (ps : List Parameter) : List Parameter :=
  (inPlace kind (ps.rightpad (kind.arity?.getD 0) omitted)).mapIdx (inForm kind)

theorem rightpad_eq_map_getD {ps : List Parameter} {n : Nat} (h : ps.length ≤ n) :
    ps.rightpad n omitted = (List.range n).map fun i => ps.getD i omitted := by
  apply List.ext_getElem
  · simp [List.rightpad]
    omega
  · intro i hi hi'
    simp only [List.rightpad, List.getElem_append, List.getElem_replicate, List.getElem_map,
      List.getElem_range, List.getD_eq_getElem?_getD]
    split_ifs with hlt
    · simp [hlt]
    · simp [List.getElem?_eq_none (Nat.not_lt.mp hlt)]

/-- The parameters that building reads: as many as the kind has, whatever stands beyond. -/
def taken (kind : Kind) (ps : List Parameter) : List Parameter :=
  match kind.arity? with
  | some n => (List.range n).map fun i => ps.getD i omitted
  | none => ps

theorem rightpad_eq_taken {kind : Kind} {ps : List Parameter}
    (h : ∀ n ∈ kind.arity?, ps.length ≤ n) :
    ps.rightpad (kind.arity?.getD 0) omitted = taken kind ps := by
  unfold taken
  cases hn : kind.arity? with
  | none => simp [List.rightpad]
  | some n => exact rightpad_eq_map_getD (h n hn)

theorem mapIdx_id (ps : List Parameter) : ps.mapIdx (fun _ => id) = ps := by
  simp [List.mapIdx_eq_zipIdx_map]

theorem inPlace_string (first second : Parameter) :
    inPlace .string [first, second] =
      [(lengthAndEncoding first second).1, (lengthAndEncoding first second).2] := by
  unfold lengthAndEncoding
  split
  · rfl
  · rfl
  · next hstr hconst =>
    unfold inPlace
    split
    · next heq =>
      cases heq
      exact absurd rfl (hstr _ rfl)
    · next heq =>
      cases heq
      exact absurd rfl (hconst _ rfl)
    · rfl

/-! ## What the slots read

Each slot reads from a parameter what stands in its form. -/

namespace Slot

variable {s : Slot} {p : Parameter}

theorem unwrapped_of_integer {i : Int} (h : s.integer p = .ok i) : p.unwrapped = .int i := by
  unfold integer at h
  split at h <;> cases h <;> rfl

theorem unwrapped_of_optionalInteger {i : Option Int} (h : s.optionalInteger p = .ok i) :
    p.unwrapped = i.elim .omitted .int := by
  unfold optionalInteger at h
  split at h <;> cases h <;> rfl

theorem unwrapped_of_optionalLength {length : Option UInt64}
    (h : s.optionalLength p = .ok length) :
    p.unwrapped = length.elim .omitted fun n => .int n.toNat := by
  obtain ⟨i, hi, h⟩ := bind_eq_ok_iff.mp h
  rw [unwrapped_of_optionalInteger hi]
  cases i with
  | none =>
    cases h
    rfl
  | some i =>
    dsimp only at h
    split at h <;> cases h
    next n hn =>
      rw [Word.unsigned?_eq_some_iff.mp hn]
      rfl

theorem unwrapped_of_signed {n : Int64} (h : s.signed p = .ok n) :
    p.unwrapped = .int n.toInt := by
  obtain ⟨i, hi, h⟩ := bind_eq_ok_iff.mp h
  split at h <;> cases h
  next hn => rw [unwrapped_of_integer hi, Word.signed?_eq_some_iff.mp hn]

theorem unwrapped_of_unsigned {n : UInt64} (h : s.unsigned p = .ok n) :
    p.unwrapped = .int n.toNat := by
  obtain ⟨i, hi, h⟩ := bind_eq_ok_iff.mp h
  split at h <;> cases h
  next hn => rw [unwrapped_of_integer hi, Word.unsigned?_eq_some_iff.mp hn]

theorem unwrapped_of_extent {n : UInt64} (h : s.extent p = .ok n) :
    p.unwrapped = .int n.toNat := by
  obtain ⟨i, hi, h⟩ := bind_eq_ok_iff.mp h
  split at h <;> cases h
  next hn => rw [unwrapped_of_integer hi, Word.unsigned?_eq_some_iff.mp hn]

theorem unwrapped_of_optionalString {value : Option String}
    (h : s.optionalString p = .ok value) : p.unwrapped = .ofString? value := by
  unfold optionalString at h
  split at h <;> cases h <;> rfl

theorem unwrapped_of_string {value : String} (h : s.string p = .ok value) :
    p.unwrapped = .str value := by
  obtain ⟨found, hfound, h⟩ := bind_eq_ok_iff.mp h
  rw [unwrapped_of_optionalString hfound]
  cases found <;> cases h
  rfl

theorem asValueType_of_optionalType {value : Option Ty} (h : s.optionalType p = .ok value) :
    p.asValueType = .type (value.getD Ty.standardValue) := by
  unfold optionalType at h
  split at h <;> cases h <;> rfl

theorem eq_of_type {t : Ty} (h : s.type p = .ok t) : p = .type t := by
  obtain ⟨found, hfound, h⟩ := bind_eq_ok_iff.mp h
  cases found with
  | none => cases h
  | some u =>
    obtain rfl := Except.ok.inj h
    cases p <;> cases hfound
    rfl

theorem asVariable_of_optionalSymbol {symbol : Option String}
    (h : s.optionalSymbol p = .ok symbol) :
    p.asVariable = symbol.elim .omitted fun s => .type (.typeVar s) := by
  unfold optionalSymbol at h
  split at h
  · cases h
    rfl
  · cases h
    rfl
  · obtain ⟨found, hfound, rfl⟩ := map_eq_ok_iff.mp h
    obtain ⟨-, rfl⟩ := Ty.symbolParse_eq_ok_iff.mp hfound
    rfl
  · cases h

theorem asVariable_of_symbol {symbol : String} (h : s.symbol p = .ok symbol) :
    p.asVariable = .type (.typeVar symbol) := by
  obtain ⟨found, hfound, h⟩ := bind_eq_ok_iff.mp h
  rw [asVariable_of_optionalSymbol hfound]
  cases found <;> cases h
  rfl

theorem eq_of_types {ts : List Ty} (h : s.types p = .ok ts) : p = .types ts := by
  cases p <;> cases h
  rfl

theorem asFieldList_of_fields {fs : List (String × Ty)} (h : s.fields p = .ok fs) :
    p.asFieldList = .fields fs := by
  cases p <;> cases h <;> rfl

theorem eq_map_of_eachType {ps : List Parameter} {ts : List Ty} (h : s.eachType ps = .ok ts) :
    ps = ts.map .type := by
  induction ps generalizing ts with
  | nil =>
    cases h
    rfl
  | cons p ps ih =>
    cases p with
    | type t =>
      obtain ⟨us, hus, rfl⟩ := map_eq_ok_iff.mp h
      rw [ih hus, List.map_cons]
    | _ => cases h

end Slot

end Parameter

namespace Ty

open Parameter Slot

variable {kind : Kind} {ps : List Parameter} {t : Ty}

/-- The type is of the kind, has no name, and has the parameters, each in its form. -/
structure HasParameters (kind : Kind) (ps : List Parameter) (t : Ty) : Prop where
  kind_eq : t.kind = kind
  name_eq : t.name? = none
  parameters_eq : t.parameters = (inPlace kind ps).mapIdx (inForm kind)

theorem parameters_ellipsis (symbol : Option String) :
    (ellipsis symbol).parameters = [symbol.elim .omitted fun s => .type (typeVar s)] := by
  cases symbol <;> rfl

theorem parameters_string (length : Option UInt64) (encoding : Encoding) :
    (string length encoding).parameters =
      [length.elim .omitted fun n => .int n.toNat, .str encoding.name] := by
  cases length <;> rfl

theorem exists_of_makeString {length : Option UInt64} {spelling : Option String}
    (h : makeString length spelling = .ok t) : ∃ encoding, t = string length encoding ∧
      (Parameter.ofString? spelling).asEncoding = .str encoding.name := by
  cases spelling with
  | none =>
    obtain rfl := Except.ok.inj h
    exact ⟨.standard, rfl, rfl⟩
  | some spelling =>
    obtain ⟨encoding, hencoding, rfl⟩ := map_eq_ok_iff.mp h
    refine ⟨encoding, rfl, ?_⟩
    unfold Encoding.parse at hencoding
    split at hencoding <;> cases hencoding
    next hname =>
      rw [ofString?, asEncoding, hname]
      rfl

/-- Every slot of the kind is filled from the parameter in its place. -/
theorem hasParameters_of_build (h : build kind ps = .ok t) :
    HasParameters kind (taken kind ps) t := by
  -- One case per kind: what the slots have read is put back in the form it was read from.
  cases kind with
  | null | date | bytes | json | var =>
    cases h
    exact ⟨rfl, rfl, rfl⟩
  | time | datetime =>
    obtain ⟨zone, hzone, h⟩ := bind_eq_ok_iff.mp h
    cases h
    refine ⟨rfl, rfl, ?_⟩
    rw [parameters, ← unwrapped_of_optionalString hzone]
    rfl
  | units =>
    obtain ⟨unit, hunit, h⟩ := bind_eq_ok_iff.mp h
    obtain ⟨value, hvalue, h⟩ := bind_eq_ok_iff.mp h
    obtain ⟨-, rfl⟩ := makeUnits_eq_ok_iff.mp h
    refine ⟨rfl, rfl, ?_⟩
    rw [parameters, ← unwrapped_of_string hunit, ← asValueType_of_optionalType hvalue]
    rfl
  | string =>
    obtain ⟨length, hlength, h⟩ := bind_eq_ok_iff.mp h
    obtain ⟨spelling, hspelling, h⟩ := bind_eq_ok_iff.mp h
    obtain ⟨encoding, rfl, hencoding⟩ := exists_of_makeString h
    refine ⟨rfl, rfl, ?_⟩
    change _ = (inPlace .string [_, _]).mapIdx _
    rw [inPlace_string, parameters_string, ← unwrapped_of_optionalLength hlength, ← hencoding,
      ← unwrapped_of_optionalString hspelling]
    rfl
  | scalar =>
    obtain ⟨name, hname, h⟩ := bind_eq_ok_iff.mp h
    obtain ⟨size, hsize, h⟩ := bind_eq_ok_iff.mp h
    obtain ⟨alignment, halignment, h⟩ := bind_eq_ok_iff.mp h
    cases h
    refine ⟨rfl, rfl, ?_⟩
    rw [parameters, ← unwrapped_of_string hname, ← unwrapped_of_unsigned hsize,
      ← unwrapped_of_unsigned halignment]
    rfl
  | intConst =>
    obtain ⟨value, hvalue, h⟩ := bind_eq_ok_iff.mp h
    cases h
    refine ⟨rfl, rfl, ?_⟩
    rw [parameters, ← unwrapped_of_signed hvalue]
    rfl
  | strConst =>
    obtain ⟨value, hvalue, h⟩ := bind_eq_ok_iff.mp h
    cases h
    refine ⟨rfl, rfl, ?_⟩
    rw [parameters, ← unwrapped_of_string hvalue]
    rfl
  | fixed =>
    obtain ⟨extent, hextent, h⟩ := bind_eq_ok_iff.mp h
    cases h
    refine ⟨rfl, rfl, ?_⟩
    rw [parameters, ← unwrapped_of_extent hextent]
    rfl
  | typeVar =>
    obtain ⟨symbol, hsymbol, h⟩ := bind_eq_ok_iff.mp h
    obtain ⟨parsed, hparsed, rfl⟩ := map_eq_ok_iff.mp h
    obtain ⟨-, rfl⟩ := symbolParse_eq_ok_iff.mp hparsed
    refine ⟨rfl, rfl, ?_⟩
    rw [parameters, ← unwrapped_of_string hsymbol]
    rfl
  | ellipsis =>
    obtain ⟨symbol, hsymbol, h⟩ := bind_eq_ok_iff.mp h
    cases h
    refine ⟨rfl, rfl, ?_⟩
    rw [parameters_ellipsis, ← asVariable_of_optionalSymbol hsymbol]
    rfl
  | implements =>
    obtain ⟨symbol, hsymbol, h⟩ := bind_eq_ok_iff.mp h
    obtain ⟨typeset, htypeset, h⟩ := bind_eq_ok_iff.mp h
    cases h
    refine ⟨rfl, rfl, ?_⟩
    rw [parameters, ← asVariable_of_symbol hsymbol, ← unwrapped_of_string htypeset]
    rfl
  | record =>
    obtain ⟨fields, hfields, h⟩ := bind_eq_ok_iff.mp h
    obtain ⟨-, rfl⟩ := makeRecord_eq_ok_iff.mp h
    refine ⟨rfl, rfl, ?_⟩
    rw [parameters, ← asFieldList_of_fields hfields]
    rfl
  | tuple =>
    obtain ⟨members, hmembers, h⟩ := bind_eq_ok_iff.mp h
    obtain ⟨-, rfl⟩ := makeTuple_eq_ok_iff.mp h
    refine ⟨rfl, rfl, ?_⟩
    rw [parameters, ← eq_of_types hmembers]
    rfl
  | option =>
    obtain ⟨value, hvalue, h⟩ := bind_eq_ok_iff.mp h
    obtain ⟨-, rfl⟩ := makeOption_eq_ok_iff.mp h
    refine ⟨rfl, rfl, ?_⟩
    rw [parameters, ← eq_of_type hvalue]
    rfl
  | datashape =>
    obtain ⟨params, hparams, h⟩ := bind_eq_ok_iff.mp h
    obtain ⟨-, rfl⟩ := makeDatashape_eq_ok_iff.mp h
    refine ⟨rfl, rfl, ?_⟩
    rw [parameters, ← eq_map_of_eachType hparams]
    exact (mapIdx_id ps).symm
  | function =>
    obtain ⟨params, hparams, h⟩ := bind_eq_ok_iff.mp h
    obtain ⟨-, rfl⟩ := makeFunction_eq_ok_iff.mp h
    refine ⟨rfl, rfl, ?_⟩
    rw [parameters, ← eq_map_of_eachType hparams]
    exact (mapIdx_id ps).symm

/-- A type that is built from parameters is of the kind that was asked for, and its
parameters are the ones given, padded and each in its place and form. So it is built from
its own parameters again, exactly. -/
theorem parameters_of_ofParameters (hps : ∀ p ∈ ps, ∀ u ∈ p.held, WellFormed u)
    (h : ofParameters kind ps = .ok t) :
    t.kind = kind ∧ t.parameters = normalized kind ps ∧
      ofParameters kind t.parameters = .ok t := by
  obtain ⟨hbuild, hlen⟩ := build_of_ofParameters h
  obtain ⟨rfl, hname, hparameters⟩ := hasParameters_of_build hbuild
  refine ⟨rfl, ?_, ?_⟩
  · rw [hparameters, normalized, rightpad_eq_taken hlen]
  · have hagain := build_parameters (wellFormed_of_ofParameters hps h).nodeValid
    rw [unnamed_eq_self hname] at hagain
    apply ofParameters_of_build hagain
    intro n hn
    exact Nat.le_of_eq (length_parameters t n hn)

/-- A lone encoding in another spelling, and a constrained variable given by its symbol. -/
theorem parameters_of_ofParameters_wrapped :
    (∃ t, ofParameters .string [.type (strConst "utf_16")] = .ok t ∧
      t.parameters = [.omitted, .str "U16"] ∧ ofParameters .string t.parameters = .ok t) ∧
    ∃ t, ofParameters .implements [.str "i3", .type (strConst "numeric")] = .ok t ∧
      t.parameters = [.type (typeVar "i3"), .str "numeric"] ∧
      ofParameters .implements t.parameters = .ok t := by
  constructor
  · have h : ofParameters .string [.type (strConst "utf_16")] = .ok (string none .utf16) := rfl
    obtain ⟨-, hparameters, hagain⟩ := parameters_of_ofParameters (by decide) h
    exact ⟨_, h, hparameters, hagain⟩
  · have h : ofParameters .implements [.str "i3", .type (strConst "numeric")] =
        .ok (implements "i3" "numeric") := rfl
    obtain ⟨-, hparameters, hagain⟩ := parameters_of_ofParameters (by decide) h
    exact ⟨_, h, hparameters, hagain⟩

end Ty

end ShapeAlgebra
