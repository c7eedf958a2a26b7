import ShapeAlgebra.Proofs.Native.Size

/-!
# Packed layouts leave no gaps

The leaves of an element, laid out byte by byte: a record puts each field at its offset, and
a field puts the elements of its array one after the other. If the records are packed and
every size is a word, each leaf starts where the one before it ends, from the first byte of
the element to its last, at any depth.
-/
namespace ShapeAlgebra.Native

/-! ## Leaves in place -/

/-- A leaf of an element, with the place of its first byte. -/
structure Span where
  start : Nat
  leaf : Descriptor

def Span.stop (s : Span) : Nat := s.start + s.leaf.size

def elementCount (extents : List UInt64) : Nat := (extents.map UInt64.toNat).prod

mutual
/-- The leaves of an element placed at `base`, in the order of declaration. -/
def Descriptor.spans : Descriptor → (base : Nat) → List Span
  | .record layout, base => layoutSpans layout base
  | leaf, base => [⟨base, leaf⟩]

/-- The leaves of a field placed at `base`: its elements follow each other. -/
def Field.spans : Field → (base : Nat) → List Span
  | ⟨_, element, extents⟩, base =>
    (List.range (elementCount extents)).flatMap fun i => element.spans (base + i * element.size)

/-- The leaves of the fields of a record placed at `base`, each field at its offset. -/
def layoutSpans : List (UInt64 × Field) → (base : Nat) → List Span
  | [], _ => []
  | (offset, f) :: ps, base => f.spans (base + offset.toNat) ++ layoutSpans ps base
end

theorem Field.spans_eq (f : Field) (base : Nat) :
    f.spans base = (List.range (elementCount f.extents)).flatMap fun i =>
      f.element.spans (base + i * f.element.size) := by
  cases f
  rw [Field.spans]

/-! ## Tilings -/

/-- The spans follow each other without gap or overlap, from one place to another. -/
inductive Tiles : (start : Nat) → List Span → (stop : Nat) → Prop
  | nil (start : Nat) : Tiles start [] start
  | cons {start stop : Nat} {leaf : Descriptor} {spans : List Span}
      (rest : Tiles (start + leaf.size) spans stop) : Tiles start (⟨start, leaf⟩ :: spans) stop

namespace Tiles

variable {start middle stop : Nat} {spans spans' : List Span}

theorem append (h : Tiles start spans middle) (h' : Tiles middle spans' stop) :
    Tiles start (spans ++ spans') stop := by
  induction h with
  | nil start => exact h'
  | cons _ ih => exact .cons (ih h')

theorem start_le_stop (h : Tiles start spans stop) : start ≤ stop := by
  induction h with
  | nil start => exact Nat.le_refl start
  | cons _ ih => omega

theorem start_le (h : Tiles start spans stop) : ∀ s ∈ spans, start ≤ s.start := by
  induction h with
  | nil start => exact List.forall_mem_nil _
  | @cons start stop leaf spans _ ih =>
    intro s hs
    rcases List.mem_cons.mp hs with rfl | hs
    · exact Nat.le_refl start
    · have hle := ih s hs
      omega

/-- Each span ends before any later one starts. -/
theorem pairwise (h : Tiles start spans stop) :
    spans.Pairwise fun s s' => s.stop ≤ s'.start := by
  induction h with
  | nil start => exact .nil
  | cons rest ih => exact .cons rest.start_le ih

/-- Every place in between belongs to a span. -/
theorem covers (h : Tiles start spans stop) (byte : Nat) :
    (start ≤ byte ∧ byte < stop) ↔ ∃ s ∈ spans, s.start ≤ byte ∧ byte < s.stop := by
  induction h with
  | nil start =>
    simp only [List.not_mem_nil, false_and, exists_false, iff_false]
    omega
  | @cons start stop leaf spans rest ih =>
    have hstop := rest.start_le_stop
    rw [List.exists_mem_cons_iff, ← ih]
    dsimp only [Span.stop]
    omega

end Tiles

/-! ## Layouts -/

/-- Elements one after the other tile an array if each of them is tiled. -/
theorem tiles_elements {d : Descriptor} (h : ∀ base, Tiles base (d.spans base) (base + d.size))
    (base count : Nat) :
    Tiles base ((List.range count).flatMap fun i => d.spans (base + i * d.size))
      (base + count * d.size) := by
  induction count with
  | zero =>
    rw [Nat.zero_mul]
    exact .nil base
  | succ count ih =>
    rw [List.range_succ, List.flatMap_append, List.flatMap_singleton, Nat.succ_mul,
      ← Nat.add_assoc]
    exact ih.append (h _)

/-- Packed fields tile a record if each of them is tiled and no offset wraps around. -/
theorem tiles_fields {fields : List Field}
    (h : ∀ f ∈ fields, ∀ base, Tiles base (f.spans base) (base + f.size)) (base : Nat)
    (offset : UInt64) (hsum : offset.toNat + (fields.map Field.size).sum ≤ Word.max) :
    Tiles (base + offset.toNat) (layoutSpans (place offset fields) base)
      (base + offset.toNat + (fields.map Field.size).sum) := by
  induction fields generalizing offset with
  | nil => exact .nil _
  | cons f fields ih =>
    obtain ⟨hf, hfields⟩ := List.forall_mem_cons.mp h
    rw [List.map_cons, List.sum_cons] at hsum
    have hoffset := Word.toNat_add_ofNat (w := offset) (n := f.size) (by omega)
    have hrest := ih hfields (offset + .ofNat f.size) (by omega)
    rw [place, layoutSpans, List.map_cons, List.sum_cons]
    rw [hoffset] at hrest
    rw [← Nat.add_assoc] at hrest ⊢
    exact (hf _).append hrest

theorem Field.total_le {fields : List Field} (h : (fields.map Field.total).sum ≤ Word.max)
    {f : Field} (hf : f ∈ fields) : f.total ≤ Word.max :=
  Nat.le_trans (List.le_sum_of_mem (List.mem_map_of_mem hf)) h

theorem Field.size_eq_mul {f : Field} (hp : f.element.Packed) (hf : f.element.Fits)
    (h : f.total ≤ Word.max) : f.size = elementCount f.extents * f.element.size := by
  have haddressable := hf.addressable hp
  rw [Field.size_eq_saturate (Descriptor.size_eq_saturate_total hp haddressable),
    saturate_of_le h, f.total_eq, arrayTotal_eq_prod, Descriptor.size_eq_total hp hf, Nat.mul_comm,
    elementCount]

/-- The induction is on the nesting of records: each field repeats its element, and the fields
follow each other. -/
theorem Descriptor.tiles_spans {d : Descriptor} (hp : d.Packed) (hf : d.Fits) (base : Nat) :
    Tiles base (d.spans base) (base + d.size) := by
  induction hp generalizing base with
  | primitive p => exact .cons (.nil _)
  | bytes length => exact .cons (.nil _)
  | unicode count width => exact .cons (.nil _)
  | @structured fields hp ih =>
    obtain ⟨hsum, helements⟩ := fits_structured_iff.mp hf
    obtain ⟨hsizes, -⟩ := addressable_structured_iff.mp (hf.addressable (.structured hp))
    have hfields : ∀ f ∈ fields, ∀ base, Tiles base (f.spans base) (base + f.size) := by
      intro f hmem base
      have htotal := Field.total_le hsum hmem
      rw [f.spans_eq, Field.size_eq_mul (hp f hmem) (helements f hmem) htotal]
      exact tiles_elements (ih f hmem (helements f hmem)) base _
    rw [size_structured hsizes, structured, spans]
    exact tiles_fields hfields base 0 (by rwa [UInt64.toNat_zero, Nat.zero_add])

/-- If all records are packed and every size is a word, the leaves of an element follow each
other from its first byte to its last: each starts where the one before it ends. So no two
of them overlap, and they cover exactly the bytes of the element. -/
theorem spans_tile {d : Descriptor} (hp : d.Packed) (hf : d.Fits) :
    Tiles 0 (d.spans 0) d.size ∧
      ((d.spans 0).Pairwise fun s s' => s.stop ≤ s'.start) ∧
      ∀ byte, byte < d.size ↔ ∃ s ∈ d.spans 0, s.start ≤ byte ∧ byte < s.stop := by
  have htiles := Descriptor.tiles_spans hp hf 0
  rw [Nat.zero_add] at htiles
  refine ⟨htiles, htiles.pairwise, ?_⟩
  intro byte
  rw [← htiles.covers byte]
  omega

/-- A number, texts of no length and two points, each of them with a mark. -/
def pairedPoints : Descriptor :=
  .structured [⟨"id", .primitive .int16, []⟩, ⟨"note", .bytes 0, [2]⟩,
    ⟨"points", .structured [⟨"at", .primitive .int32, [2]⟩, ⟨"mark", .unicode 1 2, []⟩], [2]⟩]

theorem pairedPoints_packed : pairedPoints.Packed := by
  apply Descriptor.Packed.structured
  simp only [List.forall_mem_cons]
  refine ⟨.primitive _, .bytes _, .structured ?_, List.forall_mem_nil _⟩
  simp only [List.forall_mem_cons]
  exact ⟨.primitive _, .unicode _ _, List.forall_mem_nil _⟩

theorem pairedPoints_fits : pairedPoints.Fits := by
  apply Descriptor.fits_structured_iff.mpr
  simp only [List.forall_mem_cons]
  refine ⟨by decide, .of_leaf rfl (by decide), .of_leaf rfl (by decide), ?_, List.forall_mem_nil _⟩
  apply Descriptor.fits_structured_iff.mpr
  simp only [List.forall_mem_cons]
  exact ⟨by decide, .of_leaf rfl (by decide), .of_leaf rfl (by decide), List.forall_mem_nil _⟩

theorem spans_tile_pairedPoints :
    (pairedPoints.spans 0).map Span.start = [0, 2, 2, 2, 6, 10, 12, 16, 20] ∧
      Tiles 0 (pairedPoints.spans 0) 22 ∧
      ∃ s ∈ pairedPoints.spans 0, s.start ≤ 21 ∧ 21 < s.stop := by
  obtain ⟨htiles, -, hcovers⟩ := spans_tile pairedPoints_packed pairedPoints_fits
  exact ⟨rfl, htiles, (hcovers 21).mp (by decide)⟩

end ShapeAlgebra.Native
