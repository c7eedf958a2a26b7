import ShapeAlgebra.Proofs.Native.Conversion

/-!
# From native arrays to types and back

A native array whose records are packed comes back from its type unchanged, offsets
included. Only text does not come back: a string measure is no native element, and the
conversion stops at the first one it meets.
-/
namespace ShapeAlgebra.Native

namespace Descriptor

/-- Every record of the descriptor, at any depth, is packed. -/
inductive Packed : Descriptor → Prop
  | primitive (p : Primitive) : Packed (primitive p)
  | bytes (length : UInt64) : Packed (bytes length)
  | unicode (count width : UInt64) : Packed (unicode count width)
  | structured {fields : List Field} (h : ∀ f ∈ fields, Packed f.element) :
    Packed (structured fields)

def isText : Descriptor → Bool
  | bytes _ | unicode _ _ => true
  | _ => false

end Descriptor

mutual
/-- The elements of a descriptor that are no records, depth first in the order of fields. -/
def Descriptor.leaves : Descriptor → List Descriptor
  | .record layout => layoutLeaves layout
  | d => [d]

def layoutLeaves : List (UInt64 × Field) → List Descriptor
  | [] => []
  | (_, ⟨_, element, _⟩) :: ps => element.leaves ++ layoutLeaves ps
end

variable {r : Registry} {α β γ : Type}

/-- The conversion gives `a` if there is no text among the leaves, and otherwise stops at
the measure of the first text. -/
def Restores (r : Registry) (leaves : List Descriptor) (x : Except ConversionError α)
    (a : α) : Prop :=
  match leaves.find? Descriptor.isText with
  | none => x = .ok a
  | some leaf => ∃ m, leaf.toType r = .ok m ∧ x = .error (.incompatibleMeasure m)

theorem Restores.bind {ls ls' : List Descriptor} {x : Except ConversionError α}
    {y : Except ConversionError β} {a : α} {b : β} (f : α → β → γ)
    (hx : Restores r ls x a) (hy : Restores r ls' y b) :
    Restores r (ls ++ ls') (do return f (← x) (← y)) (f a b) := by
  unfold Restores at *
  rw [List.find?_append]
  cases hl : ls.find? Descriptor.isText with
  | none =>
    rw [hl] at hx
    obtain rfl := hx
    rw [Option.none_or]
    cases hl' : ls'.find? Descriptor.isText with
    | none =>
      rw [hl'] at hy
      obtain rfl := hy
      rfl
    | some leaf =>
      rw [hl'] at hy
      obtain ⟨m, hm, rfl⟩ := hy
      exact ⟨m, hm, rfl⟩
  | some leaf =>
    rw [hl] at hx
    obtain ⟨m, hm, rfl⟩ := hx
    exact ⟨m, hm, rfl⟩

theorem Restores.map {ls : List Descriptor} {x : Except ConversionError α} {a : α} (f : α → β)
    (hx : Restores r ls x a) : Restores r ls (x.map f) (f a) := by
  unfold Restores at *
  cases hl : ls.find? Descriptor.isText with
  | none =>
    rw [hl] at hx
    obtain rfl := hx
    rfl
  | some leaf =>
    rw [hl] at hx
    obtain ⟨m, hm, rfl⟩ := hx
    exact ⟨m, hm, rfl⟩

theorem mapM_fieldExtent_fixed (holder : Ty) (extents : List UInt64) :
    (extents.map Ty.fixed).mapM (Ty.fieldExtent holder) = .ok extents := by
  rw [mapM_eq_ok_iff, List.forall₂_map_left_iff, List.forall₂_same]
  exact fun _ _ => rfl

/-- Fields come back if their elements do. -/
theorem restores_fields {fields : List Field}
    (h : ∀ f ∈ fields, ∀ m, f.element.toType r = .ok m →
      Restores r f.element.leaves m.nativeElement f.element)
    {offset : UInt64} {fs : List (String × Ty)} (hfs : fieldTypes r (place offset fields) = .ok fs) :
    Restores r (layoutLeaves (place offset fields)) (Ty.nativeFields fs) fields := by
  induction fields generalizing offset fs with
  | nil =>
    obtain rfl := Except.ok.inj hfs
    exact rfl
  | cons f fields ih =>
    obtain ⟨name, element, extents⟩ := f
    rw [place, fieldTypes] at hfs
    obtain ⟨m, hm, hfs⟩ := bind_eq_ok_iff.mp hfs
    obtain ⟨t, ht, hfs⟩ := bind_eq_ok_iff.mp hfs
    obtain ⟨rest, hrest, hfs⟩ := bind_eq_ok_iff.mp hfs
    obtain rfl := Except.ok.inj hfs
    obtain ⟨hshape, hmeasure⟩ := shape_measure_of_shaped (position?_of_toType hm) ht
    rw [Ty.nativeFields_cons, hshape, hmeasure, mapM_fieldExtent_fixed, place, layoutLeaves]
    have hhead := h _ List.mem_cons_self m hm
    have htail := ih (fun f hf => h f (List.mem_cons_of_mem _ hf)) hrest
    exact hhead.bind (fun e rest => ⟨name, e, extents⟩ :: rest) htail

/-- Every packed element comes back from its measure. -/
theorem restores_element (hr : r.Seeded) {d : Descriptor} (hd : d.Packed) {m : Ty}
    (hm : d.toType r = .ok m) : Restores r d.leaves m.nativeElement d := by
  induction hd generalizing m with
  | primitive p =>
    rw [Descriptor.toType, scalarType_eq hr] at hm
    obtain rfl := Except.ok.inj hm
    change Ty.nativeElement _ = _
    rw [Ty.nativeElement, ofScalar?_toScalar]
  | bytes length =>
    obtain rfl := Except.ok.inj hm
    exact ⟨_, rfl, rfl⟩
  | unicode count width =>
    have hm' := hm
    rw [Descriptor.toType] at hm
    split at hm <;> cases hm
    exact ⟨_, hm', rfl⟩
  | structured _ ih =>
    rw [Descriptor.structured, Descriptor.toType] at hm
    obtain ⟨fs, hfs, hm⟩ := bind_eq_ok_iff.mp hm
    obtain ⟨-, rfl⟩ := Ty.makeRecord_eq_ok_iff.mp (checked_eq_ok_iff.mp hm)
    rw [Ty.nativeElement]
    exact (restores_fields (fun f hf m => ih f hf) hfs).map Descriptor.structured

theorem outerExtent_of_makeFixed {holder d : Ty} {extent : Int64}
    (h : Ty.makeFixed extent = .ok d) : Ty.outerExtent holder d = .ok extent := by
  obtain ⟨n, hn, rfl⟩ := Ty.makeFixed_eq_ok_iff.mp h
  rw [Ty.outerExtent, Word.toSigned?_eq_some_iff.mpr hn]

/-- The whole array comes back if its element does: every extent is kept. -/
theorem restores_array (hr : r.Seeded) {shape : List Int64} {d : Descriptor} (hd : d.Packed)
    {t : Ty} (h : ArrayForm.toType r ⟨shape, d⟩ = .ok t) :
    Restores r d.leaves t.toNative ⟨shape, d⟩ := by
  obtain ⟨m, hm, h⟩ := bind_eq_ok_iff.mp h
  obtain ⟨dims, hdims, ht⟩ := bind_eq_ok_iff.mp h
  have hback : dims.mapM t.outerExtent = .ok shape := by
    refine mapM_eq_ok_iff.mpr ((mapM_eq_ok_iff.mp hdims).flip.imp fun dim extent hdim => ?_)
    exact outerExtent_of_makeFixed (checked_eq_ok_iff.mp hdim)
  obtain ⟨hshape, hmeasure⟩ := shape_measure_of_shaped (position?_of_toType hm) ht
  rw [Ty.toNative, hshape, hmeasure, hback]
  exact (restores_element hr hd hm).map (ArrayForm.mk shape)

theorem exists_string_of_isText {d : Descriptor} {m : Ty} (ht : d.isText = true)
    (hm : d.toType r = .ok m) : ∃ length encoding, m = .string (some length) encoding := by
  cases d with
  | bytes length => exact ⟨length, .ascii, (Except.ok.inj hm).symm⟩
  | unicode count width =>
    rw [Descriptor.toType] at hm
    split at hm <;> cases hm
    exact ⟨count, _, rfl⟩
  | _ => cases ht

/-- A packed array that has a type is the array of that type, down to the offsets of its
fields, unless it holds text. Then the type has no array, for the string measure of the
first text. -/
theorem toNative_of_toType (hr : r.Seeded) {shape : List Int64} {d : Descriptor}
    (hd : d.Packed) {t : Ty} (h : ArrayForm.toType r ⟨shape, d⟩ = .ok t) :
    ((∀ leaf ∈ d.leaves, leaf.isText = false) → t.toNative = .ok ⟨shape, d⟩) ∧
      ∀ leaf, d.leaves.find? Descriptor.isText = some leaf →
        ∃ length encoding, leaf.toType r = .ok (.string (some length) encoding) ∧
          t.toNative = .error (.incompatibleMeasure (.string (some length) encoding)) := by
  have hback := restores_array hr hd h
  unfold Restores at hback
  constructor
  · intro hnone
    rw [List.find?_eq_none.mpr (by simpa using hnone)] at hback
    exact hback
  · intro leaf hleaf
    rw [hleaf] at hback
    obtain ⟨m, hm, herror⟩ := hback
    obtain ⟨length, encoding, rfl⟩ := exists_string_of_isText (List.find?_some hleaf) hm
    exact ⟨length, encoding, hm, herror⟩

/-- A record that holds an array of records, the last field of which has the element. -/
def sampleRow (element : Descriptor) : Descriptor :=
  .structured [⟨"x", .primitive .float64, [2, 3]⟩,
    ⟨"rows", .structured [⟨"z", .primitive .complex64, []⟩, ⟨"last", element, [0]⟩], [5]⟩]

theorem sampleRow_packed {element : Descriptor} (h : element.Packed) :
    (sampleRow element).Packed := by
  refine .structured fun f hf => ?_
  rcases List.mem_pair.mp hf with rfl | rfl
  · exact .primitive _
  · refine .structured fun f hf => ?_
    rcases List.mem_pair.mp hf with rfl | rfl
    · exact .primitive _
    · exact h

theorem toNative_of_toType_sampleRow :
    (∃ t, ArrayForm.toType .builtin ⟨[4, 0], sampleRow (.primitive .bool)⟩ = .ok t ∧
      t.toNative = .ok ⟨[4, 0], sampleRow (.primitive .bool)⟩) ∧
    ∃ t, ArrayForm.toType .builtin ⟨[4, 0], sampleRow (.unicode 7 2)⟩ = .ok t ∧
      t.toNative = .error (.incompatibleMeasure (.string (some 7) .utf16)) := by
  constructor
  · have htype : ∃ t, ArrayForm.toType .builtin ⟨[4, 0], sampleRow (.primitive .bool)⟩ = .ok t := by
      simp only [ArrayForm.toType, sampleRow, Descriptor.structured, place, Descriptor.toType,
        fieldTypes, scalarType_eq Registry.builtin_seeded]
      exact ⟨_, rfl⟩
    obtain ⟨t, ht⟩ := htype
    refine ⟨t, ht, ?_⟩
    exact (toNative_of_toType Registry.builtin_seeded (sampleRow_packed (.primitive _)) ht).1
      (by simp [sampleRow, Descriptor.structured, place, Descriptor.leaves, layoutLeaves,
        Descriptor.isText])
  · have htype : ∃ t, ArrayForm.toType .builtin ⟨[4, 0], sampleRow (.unicode 7 2)⟩ = .ok t := by
      simp only [ArrayForm.toType, sampleRow, Descriptor.structured, place, Descriptor.toType,
        fieldTypes, scalarType_eq Registry.builtin_seeded]
      exact ⟨_, rfl⟩
    obtain ⟨t, ht⟩ := htype
    obtain ⟨length, encoding, hleaf, herror⟩ :=
      (toNative_of_toType Registry.builtin_seeded (sampleRow_packed (.unicode 7 2)) ht).2 _ rfl
    cases hleaf
    exact ⟨t, ht, herror⟩

end ShapeAlgebra.Native
