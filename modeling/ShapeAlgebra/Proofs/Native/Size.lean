import Mathlib.Algebra.BigOperators.Ring.List
import Mathlib.Algebra.Order.BigOperators.Group.List
import Mathlib.Algebra.Order.Ring.Nat
import ShapeAlgebra.Proofs.Native.DescriptorRoundTrip

/-!
# Exact sizes

The sizes of descriptors without the limit of a machine word. Saturating on the way, at every
extent, field and level, is saturating once at the end. So the sizes of packed descriptors are
the exact ones where these are words, and the largest word otherwise. This is asserted where
no offset wraps around: in every record, the sizes of the fields have to add up to a word.
-/
namespace ShapeAlgebra.Native

/-- The size of an array, without limit. -/
def arrayTotal (total : Nat) (extents : List UInt64) : Nat :=
  extents.foldl (fun total extent => total * extent.toNat) total

mutual
/-- Bytes per element, without limit. -/
def Descriptor.total : Descriptor → Nat
  | .primitive p => p.size
  | .bytes length => length.toNat
  | .unicode count width => count.toNat * width.toNat
  | .record layout => layoutTotal layout

def Field.total : Field → Nat
  | ⟨_, element, extents⟩ => arrayTotal element.total extents

def layoutTotal : List (UInt64 × Field) → Nat
  | [] => 0
  | (_, f) :: ps => f.total + layoutTotal ps
end

/-- The exact size is a word at every level: that of the descriptor and those of the elements
of its fields, at any depth. -/
inductive Descriptor.Fits : Descriptor → Prop
  | intro {d : Descriptor} (total : d.total ≤ Word.max)
      (elements : ∀ p ∈ d.layout, Fits p.2.element) : Fits d

/-- The sizes of the fields add up to a word at every level, so that no offset wraps around. -/
inductive Descriptor.Addressable : Descriptor → Prop
  | intro {d : Descriptor} (sizes : (d.layout.map fun p => p.2.size).sum ≤ Word.max)
      (elements : ∀ p ∈ d.layout, Addressable p.2.element) : Addressable d

theorem Field.size_eq (f : Field) : f.size = arraySize f.element.size f.extents := by
  cases f
  rw [Field.size]

theorem Field.total_eq (f : Field) : f.total = arrayTotal f.element.total f.extents := by
  cases f
  rw [Field.total]

/-! ## Saturation -/

theorem saturate_of_le {n : Nat} (h : n ≤ Word.max) : saturate n = n :=
  Nat.min_eq_left h

/-- A factor of zero undoes saturation, and any other keeps a saturated size saturated. -/
theorem saturate_mul (n m : Nat) : saturate (saturate n * m) = saturate (n * m) := by
  by_cases hn : n ≤ Word.max
  · rw [saturate_of_le hn]
  · have hsat : saturate n = Word.max := Nat.min_eq_right (Nat.le_of_not_le hn)
    by_cases hm : m = 0
    · rw [hm, Nat.mul_zero, Nat.mul_zero]
    · have hpos : 1 ≤ m := Nat.one_le_iff_ne_zero.mpr hm
      have hmax : Word.max ≤ Word.max * m := Nat.le_mul_of_pos_right _ hpos
      have hle : Word.max * m ≤ n * m := Nat.mul_le_mul_right m (Nat.le_of_not_le hn)
      rw [hsat, saturate, saturate, Nat.min_eq_right hmax, Nat.min_eq_right (Nat.le_trans hmax hle)]

/-- Saturating at every extent is saturating once, at the end. -/
theorem arraySize_saturate (n : Nat) (extents : List UInt64) :
    arraySize (saturate n) extents = saturate (arrayTotal n extents) := by
  induction extents generalizing n with
  | nil => rfl
  | cons extent extents ih =>
    change arraySize (saturate (saturate n * extent.toNat)) extents = _
    rw [saturate_mul, ih]
    rfl

theorem saturate_add (n m : Nat) : saturate (saturate n + m) = saturate (n + m) := by
  unfold saturate
  omega

theorem saturate_sum (ns : List Nat) : saturate (ns.map saturate).sum = saturate ns.sum := by
  induction ns with
  | nil => rfl
  | cons n ns ih =>
    rw [List.map_cons, List.sum_cons, List.sum_cons, saturate_add, Nat.add_comm, ← saturate_add,
      ih, saturate_add, Nat.add_comm]

/-- A field saturates once if its element does. -/
theorem Field.size_eq_saturate {f : Field} (h : f.element.size = saturate f.element.total) :
    f.size = saturate f.total := by
  rw [f.size_eq, f.total_eq, h, arraySize_saturate]

theorem arrayTotal_eq_prod (n : Nat) (extents : List UInt64) :
    arrayTotal n extents = n * (extents.map UInt64.toNat).prod := by
  induction extents generalizing n with
  | nil => exact (Nat.mul_one n).symm
  | cons extent extents ih =>
    change arrayTotal (n * extent.toNat) extents = _
    rw [ih, List.map_cons, List.prod_cons, Nat.mul_assoc]

/-! ## Packed fields -/

theorem map_snd_place (offset : UInt64) (fields : List Field) :
    (place offset fields).map Prod.snd = fields := by
  induction fields generalizing offset with
  | nil => rfl
  | cons f fields ih => rw [place, List.map_cons, ih]

theorem layoutTotal_place (offset : UInt64) (fields : List Field) :
    layoutTotal (place offset fields) = (fields.map Field.total).sum := by
  induction fields generalizing offset with
  | nil => rfl
  | cons f fields ih => rw [place, layoutTotal, ih, List.map_cons, List.sum_cons]

/-- The last of the packed fields ends no later than where the sizes of all of them add up
to. -/
theorem layoutEnd_place_le (offset : UInt64) (fields : List Field) :
    layoutEnd (place offset fields) ≤ offset.toNat + (fields.map Field.size).sum := by
  induction fields generalizing offset with
  | nil => exact Nat.zero_le _
  | cons f fields ih =>
    rw [List.map_cons, List.sum_cons]
    cases fields with
    | nil => exact Nat.le_refl _
    | cons g fields =>
      have hrest := ih (offset + .ofNat f.size)
      have hoffset := Word.toNat_add_ofNat_le offset f.size
      change layoutEnd (place (offset + .ofNat f.size) (g :: fields)) ≤ _
      omega

/-- It ends exactly there if no offset wraps around. -/
theorem layoutEnd_place {offset : UInt64} {f : Field} {fields : List Field}
    (h : offset.toNat + ((f :: fields).map Field.size).sum ≤ Word.max) :
    layoutEnd (place offset (f :: fields)) =
      offset.toNat + ((f :: fields).map Field.size).sum := by
  induction fields generalizing offset f with
  | nil => simp [place, layoutEnd]
  | cons g fields ih =>
    rw [List.map_cons, List.sum_cons] at h ⊢
    have hoffset := Word.toNat_add_ofNat (w := offset) (n := f.size) (by omega)
    change layoutEnd (place (offset + .ofNat f.size) (g :: fields)) = _
    rw [ih (by omega), hoffset, Nat.add_assoc]

namespace Descriptor

theorem size_structured {fields : List Field} (h : (fields.map Field.size).sum ≤ Word.max) :
    (structured fields).size = (fields.map Field.size).sum := by
  cases fields with
  | nil => rfl
  | cons f fields =>
    have hzero : (0 : UInt64).toNat + ((f :: fields).map Field.size).sum ≤ Word.max := by
      rwa [UInt64.toNat_zero, Nat.zero_add]
    rw [structured, size, layoutEnd_place hzero, UInt64.toNat_zero, Nat.zero_add, saturate_of_le h]

theorem total_structured (fields : List Field) :
    (structured fields).total = (fields.map Field.total).sum :=
  layoutTotal_place 0 fields

theorem forall_mem_layout_structured {P : Descriptor → Prop} {fields : List Field} :
    (∀ p ∈ (structured fields).layout, P p.2.element) ↔ ∀ f ∈ fields, P f.element := by
  have hmap := map_snd_place 0 fields
  conv_rhs => rw [← hmap, List.forall_mem_map]
  rfl

theorem Fits.total_le {d : Descriptor} (h : d.Fits) : d.total ≤ Word.max := by
  obtain ⟨htotal, -⟩ := h
  exact htotal

theorem Fits.of_leaf {d : Descriptor} (hleaf : d.layout = []) (h : d.total ≤ Word.max) :
    d.Fits :=
  ⟨h, hleaf ▸ List.forall_mem_nil _⟩

theorem fits_structured_iff {fields : List Field} :
    (structured fields).Fits ↔
      (fields.map Field.total).sum ≤ Word.max ∧ ∀ f ∈ fields, f.element.Fits := by
  rw [← total_structured, ← forall_mem_layout_structured]
  constructor
  · rintro ⟨htotal, helements⟩
    exact ⟨htotal, helements⟩
  · rintro ⟨htotal, helements⟩
    exact ⟨htotal, helements⟩

theorem Addressable.of_leaf {d : Descriptor} (hleaf : d.layout = []) : d.Addressable := by
  constructor
  · rw [hleaf]
    exact Nat.zero_le _
  · rw [hleaf]
    exact List.forall_mem_nil _

theorem addressable_structured_iff {fields : List Field} :
    (structured fields).Addressable ↔
      (fields.map Field.size).sum ≤ Word.max ∧ ∀ f ∈ fields, f.element.Addressable := by
  have hsizes : ((structured fields).layout.map fun p => p.2.size) = fields.map Field.size := by
    conv_rhs => rw [← map_snd_place 0 fields, List.map_map]
    rfl
  rw [← hsizes, ← forall_mem_layout_structured]
  constructor
  · rintro ⟨hsum, helements⟩
    exact ⟨hsum, helements⟩
  · rintro ⟨hsum, helements⟩
    exact ⟨hsum, helements⟩

theorem size_eq_saturate_total {d : Descriptor} (hp : d.Packed) (ha : d.Addressable) :
    d.size = saturate d.total := by
  induction hp with
  | primitive p =>
    have hle : p.size ≤ Word.max := by cases p <;> decide
    exact (saturate_of_le hle).symm
  | bytes length =>
    have hlt := length.toNat_lt
    exact (saturate_of_le (Nat.le_of_lt_succ hlt)).symm
  | unicode count width => rfl
  | @structured fields _ ih =>
    obtain ⟨hsum, helements⟩ := addressable_structured_iff.mp ha
    have hsizes : fields.map Field.size = (fields.map Field.total).map saturate := by
      rw [List.map_map]
      apply List.map_congr_left
      intro f hmem
      exact Field.size_eq_saturate (ih f hmem (helements f hmem))
    rw [size_structured hsum, total_structured, ← saturate_sum, ← hsizes, saturate_of_le hsum]

end Descriptor

/-! ## Exact sizes that are words -/

theorem arraySize_le_arrayTotal {size total : Nat} (h : size ≤ total) (extents : List UInt64) :
    arraySize size extents ≤ arrayTotal total extents := by
  induction extents generalizing size total with
  | nil => exact h
  | cons extent extents ih =>
    apply ih
    exact Nat.le_trans (Nat.min_le_left _ _) (Nat.mul_le_mul_right extent.toNat h)

theorem Field.size_le_total {f : Field} (h : f.element.size ≤ f.element.total) :
    f.size ≤ f.total := by
  rw [f.size_eq, f.total_eq]
  exact arraySize_le_arrayTotal h f.extents

namespace Descriptor

/-- Neither saturation nor offsets that wrap around make a descriptor larger than it is. -/
theorem size_le_total {d : Descriptor} (hp : d.Packed) : d.size ≤ d.total := by
  induction hp with
  | primitive p => exact Nat.le_refl _
  | bytes length => exact Nat.le_refl _
  | unicode count width => exact Nat.min_le_left _ _
  | @structured fields _ ih =>
    calc
      (structured fields).size ≤ layoutEnd (place 0 fields) := Nat.min_le_left _ _
      _ ≤ (0 : UInt64).toNat + (fields.map Field.size).sum := layoutEnd_place_le 0 fields
      _ = (fields.map Field.size).sum := Nat.zero_add _
      _ ≤ (fields.map Field.total).sum :=
        List.sum_le_sum fun f hmem => Field.size_le_total (ih f hmem)
      _ = (structured fields).total := (total_structured fields).symm

theorem Fits.addressable {d : Descriptor} (hp : d.Packed) (hf : d.Fits) : d.Addressable := by
  induction hp with
  | primitive p => exact .of_leaf rfl
  | bytes length => exact .of_leaf rfl
  | unicode count width => exact .of_leaf rfl
  | @structured fields hp ih =>
    obtain ⟨hsum, helements⟩ := fits_structured_iff.mp hf
    apply addressable_structured_iff.mpr
    constructor
    · apply Nat.le_trans _ hsum
      exact List.sum_le_sum fun f hmem => Field.size_le_total (size_le_total (hp f hmem))
    · intro f hmem
      exact ih f hmem (helements f hmem)

/-- A packed descriptor has its exact size if sizes fit at every level. -/
theorem size_eq_total {d : Descriptor} (hp : d.Packed) (hf : d.Fits) : d.size = d.total := by
  rw [size_eq_saturate_total hp (hf.addressable hp), saturate_of_le hf.total_le]

end Descriptor

/-! ## Sizes up to saturation -/

theorem Field.size_eq_saturate_prod {f : Field} (hp : f.element.Packed)
    (ha : f.element.Addressable) :
    f.size = saturate (f.element.total * (f.extents.map UInt64.toNat).prod) := by
  rw [Field.size_eq_saturate (Descriptor.size_eq_saturate_total hp ha), f.total_eq,
    arrayTotal_eq_prod]

/-- A packed descriptor none of whose offsets wraps around has its exact size, or the largest
word if the exact size is beyond it; so has a field, whose exact size is that of its element
times all its extents. In particular the order of the extents makes no difference, and an
extent of zero leaves nothing, wherever it stands. -/
theorem size_eq_min_total :
    (∀ d : Descriptor, d.Packed → d.Addressable → d.size = min d.total Word.max) ∧
      ∀ f : Field, f.element.Packed → f.element.Addressable →
        f.size = min f.total Word.max ∧
        f.size = min (f.element.total * (f.extents.map UInt64.toNat).prod) Word.max ∧
        (0 ∈ f.extents → f.size = 0) ∧
        ∀ extents, extents.Perm f.extents → Field.size ⟨f.name, f.element, extents⟩ = f.size := by
  constructor
  · intro d hp ha
    exact Descriptor.size_eq_saturate_total hp ha
  · intro f hp ha
    have helement := Descriptor.size_eq_saturate_total hp ha
    refine ⟨Field.size_eq_saturate helement, Field.size_eq_saturate_prod hp ha, ?_, ?_⟩
    · intro hzero
      have hmem : 0 ∈ f.extents.map UInt64.toNat := List.mem_map_of_mem hzero
      rw [Field.size_eq_saturate_prod hp ha, List.prod_eq_zero hmem]
      rfl
    · intro extents hperm
      have hprod := (hperm.map UInt64.toNat).prod_eq
      have hextents := Field.size_eq_saturate_prod (f := ⟨f.name, f.element, extents⟩) hp ha
      rw [hextents, hprod, Field.size_eq_saturate_prod hp ha]

/-- A field that repeats a record of four halves of the range of words. -/
def widePages (extents : List UInt64) : Field :=
  ⟨"pages", .structured [⟨"half", .bytes 9223372036854775808, [4]⟩], extents⟩

theorem widePages_packed (extents : List UInt64) : (widePages extents).element.Packed := by
  apply Descriptor.Packed.structured
  intro f hf
  obtain rfl := List.mem_singleton.mp hf
  exact .bytes _

theorem widePages_addressable (extents : List UInt64) :
    (widePages extents).element.Addressable := by
  apply Descriptor.addressable_structured_iff.mpr
  exact ⟨by decide +kernel, List.forall_mem_singleton.mpr (.of_leaf rfl)⟩

/-- Every level saturates before the next one, and yet an extent of zero leaves nothing and
the order of the extents makes no difference. -/
theorem size_eq_min_total_widePages :
    (Descriptor.structured [widePages [7, 3]]).size = 18446744073709551615 ∧
      (widePages [7, 3, 0]).size = 0 ∧ (widePages [3, 7]).size = (widePages [7, 3]).size := by
  obtain ⟨hsize, hfield⟩ := size_eq_min_total
  obtain ⟨-, -, hzero, -⟩ :=
    hfield (widePages [7, 3, 0]) (widePages_packed _) (widePages_addressable _)
  obtain ⟨-, -, -, hperm⟩ :=
    hfield (widePages [7, 3]) (widePages_packed _) (widePages_addressable _)
  refine ⟨?_, hzero (by decide), hperm [3, 7] (List.Perm.swap _ _ _)⟩
  have hpacked : (Descriptor.structured [widePages [7, 3]]).Packed :=
    .structured (List.forall_mem_singleton.mpr (widePages_packed _))
  have haddressable : (Descriptor.structured [widePages [7, 3]]).Addressable := by
    apply Descriptor.addressable_structured_iff.mpr
    exact ⟨by decide +kernel, List.forall_mem_singleton.mpr (widePages_addressable _)⟩
  rw [hsize _ hpacked haddressable]
  decide +kernel

end ShapeAlgebra.Native
