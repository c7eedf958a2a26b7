import ShapeAlgebra.Proofs.Native.Conversion
import ShapeAlgebra.Proofs.Ty.Traversal

/-!
# Which native arrays have types

An array has a type if none of its extents is negative, every text in it has code units of a
known width, and the fields of every record have distinct names. Any other array is refused
for its first defect: the element comes before the extents, and what the fields of a record
hold comes before their names.
-/
namespace ShapeAlgebra.Native

/-! ## Valid elements -/

/-- At any depth, the code units of text have one, two or four bytes and the fields of a
record have distinct names. -/
inductive Descriptor.Valid : Descriptor → Prop
  | primitive (p : Primitive) : Valid (.primitive p)
  | bytes (length : UInt64) : Valid (.bytes length)
  | unicode {count width : UInt64} (known : width = 1 ∨ width = 2 ∨ width = 4) :
    Valid (.unicode count width)
  | record {layout : List (UInt64 × Field)} (names : (layout.map fun p => p.2.name).Nodup)
      (elements : ∀ p ∈ layout, Valid p.2.element) : Valid (.record layout)

/-! ## Requirements -/

/-- One condition on an array: that the width of a code unit is known, that the name of a
field is none of the names before it, or that an extent is not negative. -/
inductive Requirement where
  | codeUnit (count width : UInt64)
  | newName (earlier : List String) (name : String)
  | extent (extent : Int64)

def Requirement.fault : Requirement → Option ConversionError
  | codeUnit count width =>
    if width = 1 ∨ width = 2 ∨ width = 4 then none else some (.codeUnitWidth count width)
  | newName earlier name =>
    if name ∈ earlier then some (.violation (.duplicateField name)) else none
  | extent n => if 0 ≤ n.toInt then none else some (.violation (.negativeDimension n))

/-- Each name is new after the earlier names and those before it. -/
def newNames (earlier : List String) : List String → List Requirement
  | [] => []
  | name :: names => .newName earlier name :: newNames (name :: earlier) names

mutual
/-- The requirements on an element; those on a record follow those on its fields. -/
def Descriptor.requirements : Descriptor → List Requirement
  | .primitive _ => []
  | .bytes _ => []
  | .unicode count width => [.codeUnit count width]
  | .record layout => layoutRequirements layout ++ newNames [] (layout.map fun p => p.2.name)

def layoutRequirements : List (UInt64 × Field) → List Requirement
  | [] => []
  | (_, ⟨_, element, _⟩) :: ps => element.requirements ++ layoutRequirements ps
end

/-- The requirements on an array: those on its element, then those on its extents. -/
def ArrayForm.requirements (a : ArrayForm) : List Requirement :=
  a.element.requirements ++ a.shape.map .extent

variable {r : Registry}

/-! ## Dimensions around a measure -/

theorem exists_shaped {dims : List Ty} {m : Ty} (hdims : ∀ d ∈ dims, d.fits .dimension = true)
    (hm : m.position? = some .measure) : ∃ t, shaped dims m = .ok t := by
  by_cases hempty : dims = []
  · subst hempty
    exact ⟨m, rfl⟩
  · exact ⟨_, (shaped_eq_ok_iff hempty).mpr ⟨Ty.fits_of_position? hm, hdims, rfl⟩⟩

theorem isStandalone_of_shaped {dims : List Ty} {m t : Ty} (hm : m.position? = some .measure)
    (h : shaped dims m = .ok t) : t.isStandalone = true := by
  by_cases hempty : dims = []
  · subst hempty
    obtain rfl := Except.ok.inj h
    have hfits : m.kind.fits .measure = true := Ty.fits_of_position? hm
    rw [Ty.isStandalone, Kind.isStandalone, hfits, Bool.or_true]
  · obtain ⟨-, -, rfl⟩ := (shaped_eq_ok_iff hempty).mp h
    rfl

theorem isConcrete_of_shaped {dims : List Ty} {m t : Ty} (hdims : ∀ d ∈ dims, d.isConcrete = true)
    (hm : m.isConcrete = true) (h : shaped dims m = .ok t) : t.isConcrete = true := by
  by_cases hempty : dims = []
  · subst hempty
    obtain rfl := Except.ok.inj h
    exact hm
  · obtain ⟨-, -, rfl⟩ := (shaped_eq_ok_iff hempty).mp h
    rw [Ty.isConcrete_datashape, List.all_append, List.all_eq_true.mpr hdims, List.all_cons, hm]
    rfl

/-! ## Defects of elements -/

theorem layoutRequirements_eq_flatMap (layout : List (UInt64 × Field)) :
    layoutRequirements layout = layout.flatMap fun p => p.2.element.requirements := by
  induction layout with
  | nil => rfl
  | cons p layout ih =>
    obtain ⟨offset, name, element, extents⟩ := p
    rw [layoutRequirements, ih, List.flatMap_cons]

theorem reports_unicode (count width : UInt64) :
    Reports Requirement.fault [.codeUnit count width]
      ((Descriptor.unicode count width).toType r) := by
  rw [Descriptor.toType, encodingOfWidth?]
  split_ifs with h1 h2 h4
  · exact .of_none (if_pos (.inl h1)) _
  · exact .of_none (if_pos (.inr (.inl h2))) _
  · exact .of_none (if_pos (.inr (.inr h4))) _
  · exact .of_some (if_neg (by simp [h1, h2, h4]))

/-- Putting dimensions around a measure never fails, so a field reports what its element does. -/
theorem reports_fieldType {f : Field}
    (h : Reports Requirement.fault f.element.requirements (f.element.toType r)) :
    Reports Requirement.fault f.element.requirements (fieldType r f) := by
  apply h.bind_ok
  intro m hm
  have hfixed : ∀ d ∈ f.extents.map Ty.fixed, d.fits .dimension = true :=
    List.forall_mem_map.mpr fun _ _ => rfl
  obtain ⟨t, ht⟩ := exists_shaped hfixed (position?_of_toType hm)
  exact ⟨(f.name, t), bind_eq_ok_iff.mpr ⟨t, ht, rfl⟩⟩

theorem map_fst_of_fieldTypes {layout : List (UInt64 × Field)} {fs : List (String × Ty)}
    (h : (layout.mapM fun p => fieldType r p.2) = .ok fs) :
    fs.map Prod.fst = layout.map fun p => p.2.name := by
  have hpairs := mapM_eq_ok_iff.mp h
  induction hpairs with
  | nil => rfl
  | cons hfield hrest ih =>
    obtain ⟨_, -, hname, -⟩ := fieldType_eq_ok_iff.mp hfield
    rw [List.map_cons, List.map_cons, hname, ih (mapM_eq_ok_iff.mpr hrest)]

theorem isStandalone_of_fieldTypes {layout : List (UInt64 × Field)} {fs : List (String × Ty)}
    (h : (layout.mapM fun p => fieldType r p.2) = .ok fs) : ∀ f ∈ fs, f.2.isStandalone = true := by
  intro f hf
  obtain ⟨p, -, hfield⟩ := exists_of_mem_ok h hf
  obtain ⟨m, hm, -, ht⟩ := fieldType_eq_ok_iff.mp hfield
  exact isStandalone_of_shaped (position?_of_toType hm) ht

/-- Standalone types are refused for their names only. -/
theorem reports_checkFields {fs : List (String × Ty)} (h : ∀ f ∈ fs, f.2.isStandalone = true)
    (taken : List String) :
    Reports Requirement.fault (newNames taken (fs.map Prod.fst))
      ((Ty.checkFields taken fs).mapError .violation) := by
  induction fs generalizing taken with
  | nil => exact .ok ()
  | cons f fs ih =>
    obtain ⟨name, t⟩ := f
    obtain ⟨ht, hfs⟩ := List.forall_mem_cons.mp h
    rw [Ty.checkFields, List.map_cons, newNames]
    by_cases hname : name ∈ taken
    · rw [if_pos (List.contains_iff_mem.mpr hname)]
      exact .cons_some (if_pos hname)
    · have hfree : ¬ taken.contains name = true := by simpa using hname
      rw [if_neg hfree, if_neg (by simp [ht])]
      exact .cons_none (if_neg hname) (ih hfs (name :: taken))

theorem reports_makeRecord {fs : List (String × Ty)} (h : ∀ f ∈ fs, f.2.isStandalone = true) :
    Reports Requirement.fault (newNames [] (fs.map Prod.fst)) (checked (Ty.makeRecord fs)) := by
  have hfields := (reports_checkFields h []).map fun _ => Ty.record fs
  rw [checked, Ty.makeRecord]
  cases hcheck : Ty.checkFields [] fs <;> rw [hcheck] at hfields <;> exact hfields

theorem reports_toType (hr : r.Seeded) (d : Descriptor) :
    Reports Requirement.fault d.requirements (d.toType r) := by
  induction d using Descriptor.induction_on_elements with
  | step d ih =>
    cases d with
    | primitive p =>
      rw [Descriptor.toType, scalarType_eq hr]
      exact .ok _
    | bytes length => exact .ok _
    | unicode count width => exact reports_unicode count width
    | record layout =>
      change ∀ p ∈ layout, _ at ih
      rw [Descriptor.toType, Descriptor.requirements, fieldTypes_eq_mapM,
        layoutRequirements_eq_flatMap]
      have hfields := Reports.mapM_flatMap fun p hp => reports_fieldType (ih p hp)
      apply hfields.bind
      intro fs hfs
      rw [← map_fst_of_fieldTypes hfs]
      exact reports_makeRecord (isStandalone_of_fieldTypes hfs)

/-! ## Defects of arrays -/

theorem reports_makeFixed (extent : Int64) :
    Reports Requirement.fault [.extent extent] (checked (Ty.makeFixed extent)) := by
  rw [checked, Ty.makeFixed]
  by_cases hpos : 0 ≤ extent.toInt
  · obtain ⟨n, hn⟩ := Word.exists_unsigned? hpos
    rw [hn]
    exact .of_none (if_pos hpos) _
  · have hn : Word.unsigned? extent.toInt = none := if_neg (by omega)
    rw [hn]
    exact .of_some (if_neg hpos)

theorem eq_fixed_of_mem_dims {shape : List Int64} {dims : List Ty}
    (h : (shape.mapM fun extent => checked (Ty.makeFixed extent)) = .ok dims) {d : Ty}
    (hd : d ∈ dims) : ∃ n, d = .fixed n := by
  obtain ⟨extent, -, hmade⟩ := exists_of_mem_ok h hd
  obtain ⟨n, -, rfl⟩ := Ty.makeFixed_eq_ok_iff.mp (checked_eq_ok_iff.mp hmade)
  exact ⟨n, rfl⟩

theorem ArrayForm.reports_toType (hr : r.Seeded) (a : ArrayForm) :
    Reports Requirement.fault a.requirements (a.toType r) := by
  apply (Native.reports_toType hr a.element).bind
  intro m hm
  have hextents := Reports.mapM fun n (_ : n ∈ a.shape) => reports_makeFixed n
  apply hextents.bind_ok
  intro dims hdims
  apply exists_shaped _ (position?_of_toType hm)
  intro d hd
  obtain ⟨n, rfl⟩ := eq_fixed_of_mem_dims hdims hd
  rfl

/-! ## Acceptance -/

theorem fault_codeUnit_eq_none_iff {count width : UInt64} :
    (Requirement.codeUnit count width).fault = none ↔ width = 1 ∨ width = 2 ∨ width = 4 := by
  rw [Requirement.fault, ite_eq_left_iff, not_imp_comm]
  simp

theorem fault_newName_eq_none_iff {earlier : List String} {name : String} :
    (Requirement.newName earlier name).fault = none ↔ name ∉ earlier := by
  simp [Requirement.fault]

theorem fault_extent_eq_none_iff {n : Int64} :
    (Requirement.extent n).fault = none ↔ 0 ≤ n.toInt := by
  simp [Requirement.fault]

theorem forall_newNames_iff {earlier names : List String} :
    (∀ q ∈ newNames earlier names, q.fault = none) ↔
      (∀ name ∈ names, name ∉ earlier) ∧ names.Nodup := by
  induction names generalizing earlier with
  | nil => simp [newNames]
  | cons name names ih =>
    rw [newNames, List.forall_mem_cons, fault_newName_eq_none_iff, ih, List.forall_mem_cons,
      List.nodup_cons]
    simp only [List.mem_cons, not_or]
    grind

theorem valid_unicode_iff {count width : UInt64} :
    (Descriptor.unicode count width).Valid ↔ width = 1 ∨ width = 2 ∨ width = 4 := by
  constructor
  · rintro ⟨⟩
    assumption
  · exact .unicode

theorem valid_record_iff {layout : List (UInt64 × Field)} :
    (Descriptor.record layout).Valid ↔
      (∀ p ∈ layout, p.2.element.Valid) ∧ (layout.map fun p => p.2.name).Nodup := by
  constructor
  · rintro ⟨⟩
    exact ⟨by assumption, by assumption⟩
  · rintro ⟨helements, hnames⟩
    exact .record hnames helements

/-- An element is valid exactly if it meets all requirements. -/
theorem valid_iff {d : Descriptor} : d.Valid ↔ ∀ q ∈ d.requirements, q.fault = none := by
  induction d using Descriptor.induction_on_elements with
  | step d ih =>
    cases d with
    | primitive p => exact iff_of_true (.primitive p) (List.forall_mem_nil _)
    | bytes length => exact iff_of_true (.bytes length) (List.forall_mem_nil _)
    | unicode count width =>
      rw [valid_unicode_iff, Descriptor.requirements, List.forall_mem_singleton,
        fault_codeUnit_eq_none_iff]
    | record layout =>
      change ∀ p ∈ layout, _ at ih
      rw [valid_record_iff, Descriptor.requirements, List.forall_mem_append, forall_newNames_iff,
        layoutRequirements_eq_flatMap]
      simp only [List.mem_flatMap, List.not_mem_nil, not_false_eq_true, implies_true, true_and]
      grind

theorem isConcrete_of_toType {d : Descriptor} {m : Ty} (h : d.toType r = .ok m) :
    m.isConcrete = true := by
  induction d using Descriptor.induction_on_elements generalizing m with
  | step d ih =>
    cases d with
    | primitive p =>
      rw [Descriptor.toType, scalarType] at h
      split at h <;> cases h
      rfl
    | bytes length =>
      obtain rfl := Except.ok.inj h
      rfl
    | unicode count width =>
      rw [Descriptor.toType] at h
      split at h <;> cases h
      rfl
    | record layout =>
      rw [Descriptor.toType, fieldTypes_eq_mapM] at h
      obtain ⟨fs, hfs, h⟩ := bind_eq_ok_iff.mp h
      obtain ⟨-, rfl⟩ := Ty.makeRecord_eq_ok_iff.mp (checked_eq_ok_iff.mp h)
      rw [Ty.isConcrete_record, List.all_eq_true]
      intro f hf
      obtain ⟨p, hp, hfield⟩ := exists_of_mem_ok hfs hf
      obtain ⟨m, hm, -, ht⟩ := fieldType_eq_ok_iff.mp hfield
      exact isConcrete_of_shaped (List.forall_mem_map.mpr fun _ _ => rfl) (ih p hp hm) ht

theorem ArrayForm.isConcrete_of_toType {a : ArrayForm} {t : Ty} (h : a.toType r = .ok t) :
    t.isConcrete = true := by
  obtain ⟨m, hm, h⟩ := bind_eq_ok_iff.mp h
  obtain ⟨dims, hdims, h⟩ := bind_eq_ok_iff.mp h
  apply isConcrete_of_shaped _ (Native.isConcrete_of_toType hm) h
  intro d hd
  obtain ⟨n, rfl⟩ := eq_fixed_of_mem_dims hdims hd
  rfl

/-- An array has a type exactly if no extent is negative and the element is valid, and then
the type is well formed and concrete. Otherwise the conversion fails, and the error is the
fault of the first requirement that is not met: those on the element come first, each record
after its fields, and those on the extents last. -/
theorem toType_first_defect (hr : r.Seeded) (a : ArrayForm) :
    ((∃ t, a.toType r = .ok t) ↔ (∀ n ∈ a.shape, 0 ≤ n.toInt) ∧ a.element.Valid) ∧
      (∀ t, a.toType r = .ok t → t.WellFormed ∧ t.isConcrete = true) ∧
      ∀ e, a.toType r = .error e ↔ a.requirements.findSome? Requirement.fault = some e := by
  have hreports := a.reports_toType hr
  constructor
  · rw [hreports.isOk_iff, ArrayForm.requirements, List.forall_mem_append, List.forall_mem_map,
      ← valid_iff, and_comm]
    simp only [fault_extent_eq_none_iff]
  constructor
  · intro t ht
    exact ⟨ArrayForm.wellFormed_of_toType ht, ArrayForm.isConcrete_of_toType ht⟩
  · intro e
    exact hreports.eq_error_iff

/-- A record with two fields of one name, the first of which holds another such record. -/
def faultyRow (width : UInt64) : Descriptor :=
  .structured [⟨"a", .structured [⟨"x", .primitive .bool, []⟩, ⟨"x", .unicode 3 width, [2]⟩], [4]⟩,
    ⟨"a", .bytes 8, []⟩]

/-- The width comes before the names, the inner names before the outer ones, and all of them
before the extents. -/
theorem toType_first_defect_faultyRow :
    ArrayForm.toType .builtin ⟨[-2], faultyRow 3⟩ = .error (.codeUnitWidth 3 3) ∧
      ArrayForm.toType .builtin ⟨[-2], faultyRow 2⟩ =
        .error (.violation (.duplicateField "x")) ∧
      ArrayForm.toType .builtin ⟨[5, -2, -1], .unicode 3 4⟩ =
        .error (.violation (.negativeDimension (-2))) ∧
      ∃ t, ArrayForm.toType .builtin ⟨[5, 0], .unicode 3 4⟩ = .ok t ∧ t.WellFormed := by
  obtain ⟨-, -, hwidth⟩ := toType_first_defect Registry.builtin_seeded ⟨[-2], faultyRow 3⟩
  obtain ⟨-, -, hname⟩ := toType_first_defect Registry.builtin_seeded ⟨[-2], faultyRow 2⟩
  obtain ⟨-, -, hextent⟩ :=
    toType_first_defect Registry.builtin_seeded ⟨[5, -2, -1], .unicode 3 4⟩
  obtain ⟨haccept, htype, -⟩ := toType_first_defect Registry.builtin_seeded ⟨[5, 0], .unicode 3 4⟩
  obtain ⟨t, ht⟩ := haccept.mpr ⟨by simp, .unicode (by decide)⟩
  exact ⟨(hwidth _).mpr rfl, (hname _).mpr rfl, (hextent _).mpr rfl, t, ht, (htype t ht).1⟩

end ShapeAlgebra.Native
