import ShapeAlgebra.Proofs.Native.Size
import ShapeAlgebra.Proofs.Ty.Congruence

/-!
# Native arrays of equal types

Records that differ in the order of their fields are equal types, but their native fields
lie at different offsets. The native arrays of equal types still have the same extents, the
same fields by name at every level, and the same size.
-/
namespace ShapeAlgebra

namespace Native

/-- The same scalar, or records of fields with the same names, where fields of the same name
have the same extents and elements that match again. Order and offsets may differ. -/
inductive Descriptor.Matches : Descriptor → Descriptor → Prop
  | primitive (p : Primitive) : Matches (primitive p) (primitive p)
  | structured {fs gs : List Field}
      (distinct : (fs.map Field.name).Nodup)
      (names : (fs.map Field.name).Perm (gs.map Field.name))
      (extents : ∀ f ∈ fs, ∀ g ∈ gs, f.name = g.name → f.extents = g.extents)
      (elements : ∀ f ∈ fs, ∀ g ∈ gs, f.name = g.name → Matches f.element g.element) :
      Matches (structured fs) (structured gs)

/-- Fields that differ in nothing but the order inside their elements. -/
structure Field.Matches (f g : Field) : Prop where
  name : f.name = g.name
  extents : f.extents = g.extents
  element : f.element.Matches g.element

namespace Descriptor

/-- Fields that match one by one give records that match, in whatever order they come. -/
theorem matches_structured {fs gs gs' : List Field} (hd : (fs.map Field.name).Nodup)
    (h : List.Forall₂ Field.Matches fs gs') (hperm : gs'.Perm gs) :
    (structured fs).Matches (structured gs) := by
  have hnames : fs.map Field.name = gs'.map Field.name :=
    forall₂_iff_map_eq.mp (h.imp fun f g hfg => hfg.name)
  -- Names are distinct, so the field of a given name is the one it was matched with.
  have hmatch : ∀ f ∈ fs, ∀ g ∈ gs, f.name = g.name → f.Matches g := by
    intro f hf g hg hname
    obtain ⟨g', hg', hfg⟩ := exists_of_mem_left h hf
    have hd' : (gs'.map Field.name).Nodup := hnames ▸ hd
    have heq : g' = g := by
      apply List.inj_on_of_nodup_map hd' hg' (hperm.mem_iff.mpr hg)
      rw [← hfg.name, hname]
    exact heq ▸ hfg
  apply Matches.structured hd
  · rw [hnames]
    exact hperm.map Field.name
  · intro f hf g hg hname
    exact (hmatch f hf g hg hname).extents
  · intro f hf g hg hname
    exact (hmatch f hf g hg hname).element

theorem exists_namesake {fs gs : List Field}
    (names : (fs.map Field.name).Perm (gs.map Field.name)) {g : Field} (hg : g ∈ gs) :
    ∃ f ∈ fs, f.name = g.name :=
  List.mem_map.mp (names.mem_iff.mpr (List.mem_map_of_mem hg))

namespace Matches

variable {d e : Descriptor}

theorem symm (h : d.Matches e) : e.Matches d := by
  induction h with
  | primitive p => exact .primitive p
  | structured distinct names extents _ ih =>
    apply Matches.structured (names.nodup_iff.mp distinct) names.symm
    · intro g hg f hf hname
      exact (extents f hf g hg hname.symm).symm
    · intro g hg f hf hname
      exact ih f hf g hg hname.symm

theorem packed (h : d.Matches e) : d.Packed := by
  induction h with
  | primitive p => exact .primitive p
  | structured _ names _ _ ih =>
    apply Packed.structured
    intro f hf
    obtain ⟨g, hg, hname⟩ := exists_namesake names.symm hf
    exact ih f hf g hg hname.symm

/-- The fields are added up in different orders, to the same sum. -/
theorem total_eq (h : d.Matches e) : d.total = e.total := by
  induction h with
  | primitive p => rfl
  | @structured fs gs _ names extents _ ih =>
    obtain ⟨gs', hmatch, hperm⟩ := exists_perm_forall₂ names
    have htotals : fs.map Field.total = gs'.map Field.total := by
      apply forall₂_iff_map_eq.mp
      apply forall₂_imp_mem hmatch
      intro f hf g hg' hname
      have hg : g ∈ gs := hperm.mem_iff.mp hg'
      rw [f.total_eq, g.total_eq, extents f hf g hg hname, ih f hf g hg hname]
    rw [total_structured, total_structured, htotals]
    exact (hperm.map Field.total).sum_nat

theorem fits (h : d.Matches e) (hd : d.Fits) : e.Fits := by
  induction h with
  | primitive p => exact hd
  | @structured fs gs distinct names extents elements ih =>
    obtain ⟨hsum, helements⟩ := fits_structured_iff.mp hd
    have htotal := total_eq (.structured distinct names extents elements)
    rw [total_structured, total_structured] at htotal
    apply fits_structured_iff.mpr
    constructor
    · rwa [← htotal]
    · intro g hg
      obtain ⟨f, hf, hname⟩ := exists_namesake names hg
      exact ih f hf g hg hname (helements f hf)

/-- Where sizes fit, elements that match have the same size, which is the exact one. -/
theorem size_eq (h : d.Matches e) (hd : d.Fits) : d.size = e.size ∧ d.size = d.total := by
  have hleft := size_eq_total h.packed hd
  have hright := size_eq_total h.symm.packed (h.fits hd)
  refine ⟨?_, hleft⟩
  rw [hleft, hright, h.total_eq]

end Matches

end Descriptor

end Native

namespace Ty

open Native

variable {a b : Ty}

/-! ## Extents -/

theorem Equal.alike_fieldExtent (h : Equal a b) (holder holder' : Ty) :
    Alike Eq (fieldExtent holder a) (fieldExtent holder' b) := by
  have hfail : ∀ holder t : Ty, t.isLiteral = false → ∃ e, fieldExtent holder t = .error e := by
    intro holder t ht
    cases t with
    | fixed extent => cases ht
    | intConst value => cases ht
    | _ => exact ⟨_, rfl⟩
  apply h.alike_of_isLiteral (hfail holder) (hfail holder')
  intro t ht
  cases t with
  | fixed extent => exact .ok rfl
  | intConst value =>
    simp only [fieldExtent]
    cases Word.unsigned? value.toInt with
    | some n => exact .ok rfl
    | none => exact .error _ _
  | _ => exact .error _ _

theorem Equal.alike_outerExtent (h : Equal a b) (holder holder' : Ty) :
    Alike Eq (outerExtent holder a) (outerExtent holder' b) := by
  have hfail : ∀ holder t : Ty, t.isLiteral = false → ∃ e, outerExtent holder t = .error e := by
    intro holder t ht
    cases t with
    | fixed extent => cases ht
    | intConst value => cases ht
    | typeVar symbol => cases ht
    | _ => exact ⟨_, rfl⟩
  apply h.alike_of_isLiteral (hfail holder) (hfail holder')
  intro t ht
  cases t with
  | fixed extent =>
    simp only [outerExtent]
    cases Word.toSigned? extent with
    | some n => exact .ok rfl
    | none => exact .error _ _
  | intConst value =>
    simp only [outerExtent]
    split_ifs
    · exact .ok rfl
    · exact .error _ _
  | typeVar symbol => exact .ok rfl
  | _ => exact .error _ _

theorem alike_extents {α : Type} {f g : Ty → Except ConversionError α} {ds es : List Ty}
    (h : List.Forall₂ Equal ds es) (hfg : ∀ d e, Equal d e → Alike Eq (f d) (g e)) :
    Alike Eq (ds.mapM f) (es.mapM g) := by
  apply (Alike.mapM (h.imp hfg)).imp
  intro xs ys hxys
  rwa [List.forall₂_eq_eq_eq] at hxys

/-! ## Elements -/

def nativeField (f : String × Ty) : Except ConversionError Field := do
  let extents ← f.2.shape.mapM (fieldExtent f.2)
  let element ← f.2.measure.nativeElement
  return ⟨f.1, element, extents⟩

theorem nativeFields_eq_mapM (fs : List (String × Ty)) : nativeFields fs = fs.mapM nativeField := by
  induction fs with
  | nil => rfl
  | cons f fs ih =>
    rw [nativeFields_cons, ih, List.mapM_cons, nativeField]
    simp only [bind_assoc, pure_bind]

theorem map_name_of_nativeFields {fs : List (String × Ty)} {fields : List Field}
    (h : fs.mapM nativeField = .ok fields) : fields.map Field.name = fs.map Prod.fst := by
  symm
  apply forall₂_iff_map_eq.mp
  apply (mapM_eq_ok_iff.mp h).imp
  intro f field hfield
  obtain ⟨extents, -, hfield⟩ := bind_eq_ok_iff.mp hfield
  obtain ⟨element, -, hfield⟩ := bind_eq_ok_iff.mp hfield
  obtain rfl := Except.ok.inj hfield
  rfl

theorem alike_nativeField {f g : String × Ty} (hf : WellFormed f.2) (hg : WellFormed g.2)
    (h : SameField f g)
    (helement : Alike Descriptor.Matches f.2.measure.nativeElement g.2.measure.nativeElement) :
    Alike Field.Matches (nativeField f) (nativeField g) := by
  have hextents := alike_extents (h.type.shape hf hg)
    fun d e hde => hde.alike_fieldExtent f.2 g.2
  apply hextents.bind
  rintro extents _ rfl
  apply helement.bind
  intro d e hde
  exact .ok ⟨h.name, rfl, hde⟩

/-- Equal records are converted together, if their fields are. First the fields are matched
in the order of the first record, then they are put in the order of the second. -/
theorem alike_nativeRecord {fs gs : List (String × Ty)} (hfs : WellFormed (record fs))
    (hgs : WellFormed (record gs)) (h : Equal (record fs) (record gs))
    (ih : ∀ f ∈ fs, ∀ t, WellFormed t → Equal f.2 t →
      Alike Descriptor.Matches f.2.measure.nativeElement t.measure.nativeElement) :
    Alike Descriptor.Matches (record fs).nativeElement (record gs).nativeElement := by
  obtain ⟨gs', hmatch, hperm⟩ := exists_sameFields hfs hgs h
  have hfields : List.Forall₂ (fun f g => Alike Field.Matches (nativeField f) (nativeField g))
      fs gs' := by
    apply forall₂_imp_mem hmatch
    intro f hf g hg hfg
    have hf2 := hfs.of_mem_parts (List.mem_map_of_mem hf)
    have hg2 := hgs.of_mem_parts (List.mem_map_of_mem (hperm.mem_iff.mp hg))
    exact alike_nativeField hf2 hg2 hfg (ih f hf g.2 hg2 hfg.type)
  rw [nativeElement, nativeElement, nativeFields_eq_mapM, nativeFields_eq_mapM]
  have halike := (Alike.mapM hfields).trans (Alike.mapM_perm hperm)
  apply halike.attach.map
  rintro xs zs ⟨hxs, -, ys, hxys, hyzs⟩
  apply Descriptor.matches_structured _ hxys hyzs
  rw [map_name_of_nativeFields hxs]
  exact hfs.nodeValid.1

theorem Equal.alike_nativeElement (ha : WellFormed a) (hb : WellFormed b) (h : Equal a b) :
    Alike Descriptor.Matches a.measure.nativeElement b.measure.nativeElement := by
  induction a using induction_on_parts generalizing b with
  | step a ih =>
    have hkind := kind_eq_of_equal h
    cases a with
    | datashape params name =>
      obtain ⟨params', name', rfl⟩ := exists_eq_datashape hkind.symm
      -- The measure of a datashape is one of its parts, and its own measure.
      have hm := ih _ (measure_mem_params (params_ne_nil ha.nodeValid) name) ha.measure
        hb.measure (h.measure ha hb)
      rwa [measure_eq_self (kind_ne_datashape_of_fits ha.nodeValid.2.1),
        measure_eq_self (kind_ne_datashape_of_fits hb.nodeValid.2.1)] at hm
    | record fs =>
      cases b with
      | record gs =>
        apply alike_nativeRecord ha hb h
        intro f hf t ht hft
        have hmem : f.2 ∈ (record fs).parts := List.mem_map_of_mem hf
        exact ih f.2 hmem (ha.of_mem_parts hmem) ht hft
      | _ => cases hkind
    | scalar s =>
      cases b with
      | scalar s' =>
        have hname : s.name = s'.name := by
          rwa [Equal, beq_eq_equal, equal, beq_iff_eq] at h
        change Alike _ (nativeElement (scalar s)) (nativeElement (scalar s'))
        rw [nativeElement, nativeElement, Primitive.ofScalar?, Primitive.ofScalar?, hname]
        split
        · exact .ok (.primitive _)
        · exact .error _ _
      | _ => cases hkind
    | _ =>
      cases b <;> cases hkind
      exact .error _ _

/-! ## Arrays -/

theorem Equal.alike_toNative (ha : WellFormed a) (hb : WellFormed b) (h : Equal a b) :
    Alike (fun x y => x.shape = y.shape ∧ x.element.Matches y.element) a.toNative b.toNative := by
  have hshape := alike_extents (h.shape ha hb) fun d e hde => hde.alike_outerExtent a b
  apply hshape.bind
  rintro extents _ rfl
  apply (h.alike_nativeElement ha hb).bind
  intro d e hde
  exact .ok ⟨rfl, hde⟩

/-- If one of two equal types has an array, so has the other; then the extents are the same
and the elements match by the names of their fields, at every level. Where exact sizes fit
in a word at every level, both elements have the same size, the exact one. -/
theorem toNative_congruence (ha : WellFormed a) (hb : WellFormed b) (h : (a == b) = true) :
    ((∃ x, a.toNative = .ok x) ↔ ∃ y, b.toNative = .ok y) ∧
      ∀ x y, a.toNative = .ok x → b.toNative = .ok y →
        x.shape = y.shape ∧ x.element.Matches y.element ∧
          (x.element.Fits →
            x.element.size = y.element.size ∧ x.element.size = x.element.total) := by
  have halike := Equal.alike_toNative ha hb h
  refine ⟨halike.isOk_iff, ?_⟩
  intro x y hx hy
  obtain ⟨hshape, hmatch⟩ := halike.rel hx hy
  exact ⟨hshape, hmatch, hmatch.size_eq⟩

/-- Named rows that hold an array of records after a flag. -/
def markedRows : Ty :=
  datashape [typeVar "N", fixed 4, record [("flag", scalar .bool), ("marks", datashape [fixed 3,
    record [("u", scalar .float64), ("v", scalar .int16)]] none)]] (some "Rows")

/-- The same rows without a name, all fields in the other order. -/
def turnedRows : Ty :=
  datashape [typeVar "N", fixed 4, record [("marks", datashape [fixed 3,
    record [("v", scalar .int16), ("u", scalar .float64)]] none), ("flag", scalar .bool)]] none

def markedElement : Descriptor :=
  .structured [⟨"flag", .primitive .bool, []⟩,
    ⟨"marks", .structured [⟨"u", .primitive .float64, []⟩, ⟨"v", .primitive .int16, []⟩], [3]⟩]

def turnedElement : Descriptor :=
  .structured [⟨"marks", .structured [⟨"v", .primitive .int16, []⟩,
    ⟨"u", .primitive .float64, []⟩], [3]⟩, ⟨"flag", .primitive .bool, []⟩]

theorem markedElement_fits : markedElement.Fits := by
  apply Descriptor.fits_structured_iff.mpr
  simp only [List.forall_mem_cons]
  refine ⟨by decide, .of_leaf rfl (by decide), ?_, List.forall_mem_nil _⟩
  apply Descriptor.fits_structured_iff.mpr
  simp only [List.forall_mem_cons]
  exact ⟨by decide, .of_leaf rfl (by decide), .of_leaf rfl (by decide), List.forall_mem_nil _⟩

theorem toNative_congruence_markedRows :
    WellFormed markedRows ∧ WellFormed turnedRows ∧ (markedRows == turnedRows) = true ∧
      markedRows.toNative = .ok ⟨[wildcard, 4], markedElement⟩ ∧
      turnedRows.toNative = .ok ⟨[wildcard, 4], turnedElement⟩ ∧
      (markedElement == turnedElement) = false ∧ markedElement.Matches turnedElement ∧
      markedElement.Fits ∧ markedElement.size = 31 ∧ turnedElement.size = 31 := by
  have hmarked : WellFormed markedRows := by decide
  have hturned : WellFormed turnedRows := by decide
  have hequal : (markedRows == turnedRows) = true := by decide +kernel
  obtain ⟨-, hforms⟩ := toNative_congruence hmarked hturned hequal
  obtain ⟨-, hmatch, hsize⟩ := hforms _ _ rfl rfl
  obtain ⟨hsame, hexact⟩ := hsize markedElement_fits
  exact ⟨hmarked, hturned, hequal, rfl, rfl, rfl, hmatch, markedElement_fits, hexact,
    hsame.symm.trans hexact⟩

end Ty

end ShapeAlgebra
