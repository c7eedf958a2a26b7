import ShapeAlgebra.Document.Write
import ShapeAlgebra.Proofs.Document.Read
import ShapeAlgebra.Proofs.Ty.Rebuild

/-!
# Stored types are read as they would be built

A tree can be stored whether or not it is well formed. Reading it then goes through the
same constructors, in the same order, as building it again from its leaves up. Nothing of a
well-formed type is lost, its display names included. Of any other tree the first node that
is not valid is reported.
-/
namespace ShapeAlgebra

namespace Document

theorem built_bind {α β : Type} (x : Except Violation α) (f : α → Except Violation β) :
    built (x >>= f) = built x >>= fun a => built (f a) := by
  cases x <;> rfl

theorem read_labelled (kind : Kind) (payload : Document) :
    (Ty.labelled kind payload).read = readPayload kind payload := by
  rw [Ty.labelled, read, Kind.ofLabel?_label]

theorem readUnsigned_int {i : Int} {n : UInt64} (h : Word.unsigned? i = some n) :
    (int i).readUnsigned = .ok n := by
  rw [readUnsigned, h]

theorem readSigned_int {i : Int} {n : Int64} (h : Word.signed? i = some n) :
    (int i).readSigned = .ok n := by
  rw [readSigned, h]

theorem readOptionalUnsigned_int {i : Int} {n : UInt64} (h : Word.unsigned? i = some n) :
    (int i).readOptionalUnsigned = .ok (some n) :=
  map_eq_ok_iff.mpr ⟨n, readUnsigned_int h, rfl⟩

theorem readOptionalUnsigned_writeLength (length : Option UInt64) :
    (Ty.writeLength length).readOptionalUnsigned = .ok length := by
  cases length with
  | none => rfl
  | some n => exact readOptionalUnsigned_int (Word.unsigned?_toNat n)

theorem readOptionalString_ofString? (value : Option String) :
    (ofString? value).readOptionalString = .ok value := by
  cases value <;> rfl

theorem readEncoding_label (encoding : Encoding) :
    (str encoding.label).readEncoding = .ok encoding := by
  rw [readEncoding, readLabel, Encoding.ofLabel?_label]

/-! ## Lists of types -/

theorem readAll_writeAll {ts : List Ty} (h : ∀ t ∈ ts, t.write.read = built t.rebuild) :
    readAll (Ty.writeAll ts) = built (Ty.rebuildAll ts) := by
  induction ts with
  | nil => rfl
  | cons t ts ih =>
    rw [List.forall_mem_cons] at h
    rw [Ty.writeAll, readAll, h.1, ih h.2, Ty.rebuildAll, built_bind]
    cases t.rebuild with
    | error cause => rfl
    | ok t' => cases Ty.rebuildAll ts <;> rfl

theorem readEachField_writeFields {fs : List (String × Ty)}
    (h : ∀ t ∈ fs.map Prod.snd, t.write.read = built t.rebuild) :
    readEachField (Ty.writeFields fs) = built (Ty.rebuildFields fs) := by
  induction fs with
  | nil => rfl
  | cons f fs ih =>
    obtain ⟨name, t⟩ := f
    rw [List.map_cons, List.forall_mem_cons] at h
    rw [Ty.writeFields, readEachField, h.1, ih h.2, Ty.rebuildFields, built_bind]
    cases t.rebuild with
    | error cause => rfl
    | ok t' => cases Ty.rebuildFields fs <;> rfl

end Document

namespace Ty

open Document

/-- One node: reading its payload reads the parts in order, and then makes the node. -/
theorem read_write_eq (t : Ty) : t.write.read = built t.rebuild := by
  induction t using induction_on_parts with
  | step t ih =>
    cases t with
    | null | date | bytes | json | var => rfl
    | time zone | datetime zone =>
      rw [write, read_labelled]
      exact bind_eq_ok_iff.mpr ⟨zone, readOptionalString_ofString? zone, rfl⟩
    | string length encoding =>
      rw [write, read_labelled]
      refine bind_eq_ok_iff.mpr ⟨length, readOptionalUnsigned_writeLength length, ?_⟩
      exact bind_eq_ok_iff.mpr ⟨encoding, readEncoding_label encoding, rfl⟩
    | scalar s =>
      rw [write, read_labelled]
      refine bind_eq_ok_iff.mpr ⟨s.name, rfl, ?_⟩
      refine bind_eq_ok_iff.mpr ⟨s.size, readUnsigned_int (Word.unsigned?_toNat _), ?_⟩
      exact bind_eq_ok_iff.mpr ⟨s.alignment, readUnsigned_int (Word.unsigned?_toNat _), rfl⟩
    | intConst value =>
      rw [write, read_labelled]
      exact bind_eq_ok_iff.mpr ⟨value, readSigned_int (Word.signed?_toInt value), rfl⟩
    | strConst value =>
      rw [write, read_labelled]
      rfl
    | fixed extent =>
      rw [write, read_labelled]
      exact bind_eq_ok_iff.mpr ⟨extent, readUnsigned_int (Word.unsigned?_toNat extent), rfl⟩
    | ellipsis symbol =>
      rw [write, read_labelled]
      cases symbol with
      | none => rfl
      | some symbol =>
        change (built (Symbol.parse symbol)).map some >>= _ = built ((Symbol.parse symbol).map _)
        cases Symbol.parse symbol <;> rfl
    | typeVar symbol | implements symbol typeset =>
      rw [write, read_labelled]
      change built (Symbol.parse symbol) >>= _ = built ((Symbol.parse symbol).map _)
      cases Symbol.parse symbol <;> rfl
    | units unit value | option value =>
      rw [write, read_labelled, rebuild, built_bind, ← ih value List.mem_cons_self]
      rfl
    | datashape params name =>
      rw [parts] at ih
      rw [write, read_labelled, rebuild, built_bind, ← readAll_writeAll ih]
      -- the display name is read after the parts, and reading it never fails
      change (readAll (writeAll params) >>= fun ps =>
        (ofString? name).readOptionalString >>= fun name => built (makeNamed name ps)) = _
      rw [readOptionalString_ofString?]
      rfl
    | record fields =>
      rw [parts] at ih
      rw [write, read_labelled, rebuild, built_bind, ← readEachField_writeFields ih]
      rfl
    | tuple members | function members =>
      rw [parts] at ih
      rw [write, read_labelled, rebuild, built_bind, ← readAll_writeAll ih]
      rfl

/-- A well-formed type that is stored comes back exactly as it is. Any other tree is refused
for the reason of the first node, parts before the node that holds them and parts from left
to right, that its constructor does not accept. -/
theorem read_write (t : Ty) :
    t.write.read = built t.rebuild ∧
      (t.write.read = .ok t ↔ WellFormed t) ∧
      (¬ WellFormed t → ∃ before u after cause, t.postorder = before ++ u :: after ∧
        (∀ v ∈ before, NodeValid v) ∧ ¬ NodeValid u ∧ u.remake = .error cause ∧
          t.write.read = .error (.violation cause)) := by
  rw [read_write_eq]
  refine ⟨rfl, ⟨fun h => ?_, fun h => ?_⟩, fun h => ?_⟩
  · exact wellFormed_of_read ((read_write_eq t).trans h)
  · rw [rebuild_of_wellFormed h]
    rfl
  · obtain ⟨before, u, after, cause, hsplit, hbefore, hu, hcause, hbuilt⟩ :=
      rebuild_of_not_wellFormed h
    refine ⟨before, u, after, cause, hsplit, hbefore, hu, hcause, ?_⟩
    rw [hbuilt]
    rfl

/-- Rows with a named pair in them. -/
def storedRows : Ty :=
  record [("pair", datashape [fixed 2, string (some 7) .ascii] (some "Pair")),
    ("span", units "s" (scalar ⟨"int32", 4, 2⟩))]

/-- The field name is repeated, and before that an optional dimension and an empty function
stand in its fields. -/
def faultyRows : Ty :=
  record [("pair", option (fixed 2)), ("pair", tuple [function []])]

theorem read_write_storedRows :
    WellFormed storedRows ∧ storedRows.write.read = .ok storedRows ∧
      ¬ WellFormed faultyRows ∧
      (∃ before u after cause, faultyRows.postorder = before ++ u :: after ∧
        (∀ v ∈ before, NodeValid v) ∧ ¬ NodeValid u ∧ u.remake = .error cause ∧
          faultyRows.write.read = .error (.violation cause)) ∧
      faultyRows.write.read = .error (.violation (.notMeasure .option (fixed 2))) :=
  have hstored : WellFormed storedRows := by decide
  have hfaulty : ¬ WellFormed faultyRows := by decide
  ⟨hstored, (read_write storedRows).2.1.mpr hstored, hfaulty,
    (read_write faultyRows).2.2 hfaulty, (read_write faultyRows).1⟩

end Ty

end ShapeAlgebra
