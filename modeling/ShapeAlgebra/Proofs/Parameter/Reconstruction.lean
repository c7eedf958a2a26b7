import ShapeAlgebra.Proofs.Parameter.Build
import ShapeAlgebra.Proofs.Ty.Equality

/-!
# Types built again from their own parameters

Taking a type apart fills the slots of its kind with values they accept, none missing and
none to spare. Building from them gives the type back; only its own display name is no
parameter, and is lost.
-/
namespace ShapeAlgebra

namespace Parameter.Slot

variable {s : Slot}

theorem optionalString_ofString? (value : Option String) :
    s.optionalString (.ofString? value) = .ok value := by
  cases value <;> rfl

theorem signed_int {i : Int} {n : Int64} (h : Word.signed? i = some n) :
    s.signed (.int i) = .ok n := by
  refine bind_eq_ok_iff.mpr ⟨i, rfl, ?_⟩
  rw [h]
  rfl

theorem unsigned_int {i : Int} {n : UInt64} (h : Word.unsigned? i = some n) :
    s.unsigned (.int i) = .ok n := by
  refine bind_eq_ok_iff.mpr ⟨i, rfl, ?_⟩
  rw [h]
  rfl

theorem optionalLength_int {i : Int} {n : UInt64} (h : Word.unsigned? i = some n) :
    s.optionalLength (.int i) = .ok (some n) := by
  refine bind_eq_ok_iff.mpr ⟨some i, rfl, ?_⟩
  dsimp only
  rw [h]
  rfl

theorem extent_int {i : Int} {n : UInt64} (h : Word.unsigned? i = some n) :
    s.extent (.int i) = .ok n := by
  refine bind_eq_ok_iff.mpr ⟨i, rfl, ?_⟩
  rw [h]
  rfl

theorem eachType_map_type (ts : List Ty) : s.eachType (ts.map .type) = .ok ts := by
  induction ts with
  | nil => rfl
  | cons t ts ih => exact map_eq_ok_iff.mpr ⟨ts, ih, rfl⟩

end Parameter.Slot

namespace Ty

open Parameter Slot

/-- The type without its own display name. The display names inside it are kept. -/
def unnamed : Ty → Ty
  | datashape params _ => datashape params none
  | t => t

theorem unnamed_eq_self {t : Ty} (h : t.name? = none) : t.unnamed = t := by
  cases t with
  | datashape params name =>
    obtain rfl : name = none := h
    rfl
  | _ => rfl

theorem equal_unnamed_left (t u : Ty) : equal t.unnamed u = equal t u := by
  cases t with
  | datashape params name => cases u <;> simp [unnamed, equal]
  | _ => rfl

theorem makeString_name (length : Option UInt64) (encoding : Encoding) :
    makeString length (some encoding.name) = .ok (string length encoding) := by
  rw [makeString, Encoding.parse, Encoding.ofAlias?_name]
  rfl

/-- The parameters of a type fill the slots of its kind exactly. -/
theorem length_parameters (t : Ty) : ∀ n ∈ t.kind.arity?, t.parameters.length = n := by
  intro n hn
  cases t with
  | datashape | function => cases hn
  | string length encoding => cases length <;> cases hn <;> rfl
  | ellipsis symbol => cases symbol <;> cases hn <;> rfl
  | _ =>
    cases hn
    rfl

/-- One node: the slots take the parameters as they are, and the node is valid, so its
constructor gives it back. -/
theorem build_parameters {t : Ty} (h : NodeValid t) :
    build t.kind t.parameters = .ok t.unnamed := by
  cases t with
  | null | date | bytes | json | var => rfl
  | time zone | datetime zone =>
    exact bind_eq_ok_iff.mpr ⟨zone, optionalString_ofString? zone, rfl⟩
  | units unit value => exact makeUnits_eq_ok_iff.mpr ⟨h, rfl⟩
  | string length encoding =>
    have hmade := makeString_name length encoding
    cases length with
    | none => exact hmade
    | some n =>
      exact bind_eq_ok_iff.mpr ⟨some n, optionalLength_int (Word.unsigned?_toNat n), hmade⟩
  | scalar s =>
    refine bind_eq_ok_iff.mpr ⟨s.name, rfl, ?_⟩
    refine bind_eq_ok_iff.mpr ⟨s.size, unsigned_int (Word.unsigned?_toNat _), ?_⟩
    exact bind_eq_ok_iff.mpr ⟨s.alignment, unsigned_int (Word.unsigned?_toNat _), rfl⟩
  | intConst value => exact bind_eq_ok_iff.mpr ⟨value, signed_int (Word.signed?_toInt value), rfl⟩
  | strConst value => rfl
  | fixed extent => exact bind_eq_ok_iff.mpr ⟨extent, extent_int (Word.unsigned?_toNat extent), rfl⟩
  | typeVar symbol =>
    exact map_eq_ok_iff.mpr ⟨symbol, symbolParse_eq_ok_iff.mpr ⟨h, rfl⟩, rfl⟩
  | ellipsis symbol => cases symbol <;> rfl
  | datashape params name =>
    refine bind_eq_ok_iff.mpr ⟨params, eachType_map_type params, ?_⟩
    exact makeDatashape_eq_ok_iff.mpr ⟨(nodeValid_name_iff name none).mp h, rfl⟩
  | function params =>
    refine bind_eq_ok_iff.mpr ⟨params, eachType_map_type params, ?_⟩
    exact makeFunction_eq_ok_iff.mpr ⟨h, rfl⟩
  | record fields => exact makeRecord_eq_ok_iff.mpr ⟨h, rfl⟩
  | tuple members => exact makeTuple_eq_ok_iff.mpr ⟨h, rfl⟩
  | option value => exact makeOption_eq_ok_iff.mpr ⟨h, rfl⟩
  | implements symbol typeset => rfl

theorem ofParameters_of_build {kind : Kind} {ps : List Parameter} {t : Ty}
    (h : build kind ps = .ok t) (hlen : ∀ n ∈ kind.arity?, ps.length ≤ n) :
    ofParameters kind ps = .ok t :=
  (ofParameters_eq_build hlen).trans h

/-- What is built from the parameters of a type is the type itself but for its own display
name, so it is equal to the type. -/
theorem ofParameters_parameters {t : Ty} (h : WellFormed t) :
    ofParameters t.kind t.parameters = .ok t.unnamed ∧
      (t.name? = none → ofParameters t.kind t.parameters = .ok t) ∧
      (t.unnamed == t) = true := by
  have hbuilt : ofParameters t.kind t.parameters = .ok t.unnamed :=
    ofParameters_of_build (build_parameters h.nodeValid)
      fun n hn => Nat.le_of_eq (length_parameters t n hn)
  refine ⟨hbuilt, fun hname => ?_, ?_⟩
  · rw [hbuilt, unnamed_eq_self hname]
  · exact (equal_unnamed_left t t).trans (equal_refl h)

/-- A named table of rows, with a named pair and a generated variable in it. -/
def sampleRows : Ty :=
  datashape [typeVar "i0", record
    [("pair", datashape [fixed 2, string (some 7) .ascii] (some "Pair")),
     ("span", units "s" (scalar ⟨"int32", 4, 2⟩))]] (some "Rows")

theorem ofParameters_parameters_sampleRows :
    WellFormed sampleRows ∧
      ofParameters sampleRows.kind sampleRows.parameters = .ok sampleRows.unnamed ∧
      (sampleRows.unnamed == sampleRows) = true :=
  have hw : WellFormed sampleRows := by decide
  have h := ofParameters_parameters hw
  ⟨hw, h.1, h.2.2⟩

end Ty

end ShapeAlgebra
