import ShapeAlgebra.Proofs.Native.Conversion
import ShapeAlgebra.Proofs.Ty.Dimensions
import ShapeAlgebra.Proofs.Ty.Equality

/-!
# Native arrays and the dimensions of types

Dropping dimensions of a type drops the extents of its native array, and generalising the
type makes every extent a wildcard; the element stays as it is. Dropping the extents of an
array first and converting then gives the type with as many dimensions dropped.
-/
namespace ShapeAlgebra

open Native

namespace Ty

variable {t : Ty}

theorem toNative_eq_ok_iff {a : ArrayForm} :
    t.toNative = .ok a ↔
      t.shape.mapM (outerExtent t) = .ok a.shape ∧ t.measure.nativeElement = .ok a.element := by
  constructor
  · intro h
    obtain ⟨shape, hshape, h⟩ := bind_eq_ok_iff.mp h
    obtain ⟨element, helement, h⟩ := bind_eq_ok_iff.mp h
    obtain rfl := Except.ok.inj h
    exact ⟨hshape, helement⟩
  · rintro ⟨hshape, helement⟩
    rw [toNative, hshape, helement]
    rfl

/-! ## Extents -/

/-- The holder of a dimension is for messages only. -/
theorem outerExtent_holder {holder d : Ty} {extent : Int64}
    (h : outerExtent holder d = .ok extent) (holder' : Ty) :
    outerExtent holder' d = .ok extent := by
  cases d with
  | fixed n =>
    rw [outerExtent] at h ⊢
    split at h
    · exact h
    · cases h
  | intConst value =>
    rw [outerExtent] at h ⊢
    split_ifs at h ⊢ with hpos
    exact h
  | typeVar symbol => exact h
  | _ => cases h

theorem mapM_outerExtent_holder {holder : Ty} {dims : List Ty} {shape : List Int64}
    (h : dims.mapM (outerExtent holder) = .ok shape) (holder' : Ty) :
    dims.mapM (outerExtent holder') = .ok shape := by
  rw [mapM_eq_ok_iff] at h ⊢
  apply h.imp
  intro d extent hd
  exact outerExtent_holder hd holder'

theorem isExtent_or_typeVar {holder d : Ty} {extent : Int64}
    (h : outerExtent holder d = .ok extent) : d.isExtent = true ∨ ∃ symbol, d = typeVar symbol := by
  cases d with
  | fixed n => exact .inl rfl
  | intConst value => exact .inl rfl
  | typeVar symbol => exact .inr ⟨symbol, rfl⟩
  | _ => cases h

/-- Dimensions that have an extent are variables once they are generalised. -/
theorem mapM_outerExtent_generalize {holder : Ty} {dims : List Ty} {shape : List Int64}
    (h : dims.mapM (outerExtent holder) = .ok shape) (holder' : Ty) (next : Nat) :
    (generalize next dims).mapM (outerExtent holder') =
      .ok (List.replicate shape.length wildcard) := by
  rw [mapM_eq_ok_iff] at h ⊢
  induction h generalizing next with
  | nil => exact .nil
  | @cons d extent dims shape hd _ ih =>
    unfold generalize
    split_ifs with hextent
    · exact .cons rfl (ih (next + 1))
    · -- Of the dimensions that have an extent, only variables are left as they are.
      obtain hd | ⟨symbol, rfl⟩ := isExtent_or_typeVar hd
      · exact absurd hd hextent
      · exact .cons rfl (ih next)

/-! ## Types -/

theorem toNative_subarray (hw : WellFormed t) {a : ArrayForm} (h : t.toNative = .ok a) {n : Nat}
    (hn : n ≤ a.shape.length) :
    ∃ u, t.subarray n = .ok u ∧ u.toNative = .ok ⟨a.shape.drop n, a.element⟩ := by
  obtain ⟨hshape, helement⟩ := toNative_eq_ok_iff.mp h
  have hpairs := mapM_eq_ok_iff.mp hshape
  rw [← hpairs.length_eq] at hn
  obtain ⟨u, hu, hdims, hmeasure⟩ := exists_subarray hw.nodeValid hn
  refine ⟨u, hu, toNative_eq_ok_iff.mpr ⟨?_, ?_⟩⟩
  · rw [hdims]
    have hleft := mapM_eq_ok_iff.mpr (List.forall₂_drop n hpairs)
    exact mapM_outerExtent_holder hleft u
  · rw [hmeasure]
    exact helement

theorem toNative_signature (hw : WellFormed t) {a : ArrayForm} (h : t.toNative = .ok a) :
    t.signature.toNative = .ok ⟨List.replicate a.shape.length wildcard, a.element⟩ := by
  obtain ⟨hshape, helement⟩ := toNative_eq_ok_iff.mp h
  apply toNative_eq_ok_iff.mpr
  constructor
  · rw [shape_signature hw.nodeValid]
    exact mapM_outerExtent_generalize hshape t.signature 0
  · rw [measure_signature hw.nodeValid]
    exact helement

end Ty

namespace Native

variable {r : Registry}

theorem toType_eq_ok_iff {a : ArrayForm} {t : Ty} :
    a.toType r = .ok t ↔ ∃ m dims, a.element.toType r = .ok m ∧
      (a.shape.mapM fun extent => checked (Ty.makeFixed extent)) = .ok dims ∧
        shaped dims m = .ok t := by
  constructor
  · intro h
    obtain ⟨m, hm, h⟩ := bind_eq_ok_iff.mp h
    obtain ⟨dims, hdims, h⟩ := bind_eq_ok_iff.mp h
    exact ⟨m, dims, hm, hdims, h⟩
  · rintro ⟨m, dims, hm, hdims, h⟩
    apply bind_eq_ok_iff.mpr ⟨m, hm, _⟩
    exact bind_eq_ok_iff.mpr ⟨dims, hdims, h⟩

/-- Dimensions can be dropped before they are put around the measure. -/
theorem subarray_of_shaped {dims : List Ty} {m t : Ty} (hm : m.position? = some .measure)
    (h : shaped dims m = .ok t) {n : Nat} (hn : n ≤ dims.length) :
    ∃ u, t.subarray n = .ok u ∧ shaped (dims.drop n) m = .ok u := by
  obtain ⟨hshape, hmeasure⟩ := shape_measure_of_shaped hm h
  by_cases hzero : n = 0
  · subst hzero
    exact ⟨t, Ty.subarray_zero t, h⟩
  have hne : dims ≠ [] := List.ne_nil_of_length_pos (by omega)
  obtain ⟨hfits, hdims, rfl⟩ := (shaped_eq_ok_iff hne).mp h
  have hvalid : Ty.NodeValid (.datashape (dims ++ [m]) none) :=
    Ty.nodeValid_shaped_iff.mpr ⟨hne, hfits, hdims⟩
  have hsub := Ty.subarray_of_ne_zero hvalid hzero (by rwa [hshape])
  rw [hshape, hmeasure] at hsub
  refine ⟨_, hsub, ?_⟩
  -- Without dimensions the measure is left alone, where a datashape would be refused.
  cases hleft : dims.drop n with
  | nil => rfl
  | cons d ds =>
    refine (shaped_eq_ok_iff (List.cons_ne_nil d ds)).mpr ⟨hfits, ?_, rfl⟩
    intro e he
    exact hdims e (List.mem_of_mem_drop (hleft ▸ he))

theorem subarray_of_toType {a : ArrayForm} {t : Ty} (h : a.toType r = .ok t) {n : Nat}
    (hn : n ≤ a.shape.length) :
    ∃ u, t.subarray n = .ok u ∧ ArrayForm.toType r ⟨a.shape.drop n, a.element⟩ = .ok u := by
  obtain ⟨m, dims, hm, hdims, ht⟩ := toType_eq_ok_iff.mp h
  have hpairs := mapM_eq_ok_iff.mp hdims
  rw [hpairs.length_eq] at hn
  obtain ⟨u, hu, hshaped⟩ := subarray_of_shaped (position?_of_toType hm) ht hn
  refine ⟨u, hu, toType_eq_ok_iff.mpr ⟨m, dims.drop n, hm, ?_, hshaped⟩⟩
  exact mapM_eq_ok_iff.mpr (List.forall₂_drop n hpairs)

/-- The array of a type with dimensions dropped is its array with as many extents dropped,
and the array of its signature form has wildcards for extents. Conversely the type of an
array with extents dropped is its type with as many dimensions dropped. The element is the
same throughout. -/
theorem conversion_of_dimensions :
    (∀ (t : Ty) (a : ArrayForm), t.WellFormed → t.toNative = .ok a →
      (∀ n ≤ a.shape.length, ∃ u, t.subarray n = .ok u ∧
        u.toNative = .ok ⟨a.shape.drop n, a.element⟩) ∧
      t.signature.toNative = .ok ⟨List.replicate a.shape.length (-1), a.element⟩) ∧
    ∀ (r : Registry) (a : ArrayForm) (t : Ty), a.toType r = .ok t →
      ∀ n ≤ a.shape.length, ∃ u v, t.subarray n = .ok u ∧
        ArrayForm.toType r ⟨a.shape.drop n, a.element⟩ = .ok v ∧ u = v ∧ (u == v) = true := by
  constructor
  · intro t a hw h
    exact ⟨fun n hn => Ty.toNative_subarray hw h hn, Ty.toNative_signature hw h⟩
  · intro r a t h n hn
    obtain ⟨u, hsub, htype⟩ := subarray_of_toType h hn
    have hw := Ty.wellFormed_of_subarray (ArrayForm.wellFormed_of_toType h) hsub
    exact ⟨u, u, hsub, htype, rfl, Ty.equal_refl hw⟩

/-- A named table with an open, a fixed and a constant dimension. -/
def mixedTable : Ty :=
  .datashape [.typeVar "N", .fixed 2, .intConst 5, .record
    [("at", .datashape [.fixed 3, .scalar .float32] (some "Point")),
     ("on", .scalar .bool)]] (some "Table")

/-- The rows of such a table. -/
def mixedElement : Descriptor :=
  .structured [⟨"at", .primitive .float32, [3]⟩, ⟨"on", .primitive .bool, []⟩]

theorem conversion_of_dimensions_mixedTable :
    mixedTable.WellFormed ∧ mixedTable.toNative = .ok ⟨[-1, 2, 5], mixedElement⟩ ∧
      (∃ u, mixedTable.subarray 2 = .ok u ∧ u.toNative = .ok ⟨[5], mixedElement⟩) ∧
      (∃ u, mixedTable.subarray 3 = .ok u ∧ u.toNative = .ok ⟨[], mixedElement⟩) ∧
      mixedTable.signature.toNative = .ok ⟨[-1, -1, -1], mixedElement⟩ ∧
      ∃ t u v, ArrayForm.toType .builtin ⟨[4, 0, 7], mixedElement⟩ = .ok t ∧
        t.subarray 1 = .ok u ∧ ArrayForm.toType .builtin ⟨[0, 7], mixedElement⟩ = .ok v ∧
        u = v := by
  have hw : mixedTable.WellFormed := by decide
  have hnative : mixedTable.toNative = .ok ⟨[-1, 2, 5], mixedElement⟩ := rfl
  have htype : ∃ t, ArrayForm.toType .builtin ⟨[4, 0, 7], mixedElement⟩ = .ok t := by
    simp only [ArrayForm.toType, mixedElement, Descriptor.structured, place, Descriptor.toType,
      fieldTypes, scalarType_eq Registry.builtin_seeded]
    exact ⟨_, rfl⟩
  obtain ⟨t, ht⟩ := htype
  obtain ⟨hforward, hback⟩ := conversion_of_dimensions
  obtain ⟨hsub, hsignature⟩ := hforward _ _ hw hnative
  obtain ⟨u, v, hu, hv, heq, -⟩ := hback _ _ _ ht 1 (by decide)
  exact ⟨hw, hnative, hsub 2 (by decide), hsub 3 (by decide), hsignature, t, u, v, ht, hu, hv, heq⟩

end Native

end ShapeAlgebra
