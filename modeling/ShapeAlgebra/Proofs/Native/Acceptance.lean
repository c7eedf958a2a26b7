import ShapeAlgebra.Proofs.Native.Conversion

/-!
# Which types are native arrays

A type is a native array if each of its dimensions has an extent and its measure is native,
down through the fields of records. Outside, an extent may be open but has to be a signed
word; in a field it may be any word but has to be known. A type that is no array is refused
for the first offending dimension or measure, in the order in which they stand.
-/
namespace ShapeAlgebra

open Native

namespace Ty

/-! ## Native types -/

/-- An outer dimension of an array: open, or with an extent that is a signed word. -/
def isOuterExtent : Ty → Bool
  | typeVar _ => true
  | fixed extent => extent.toNat ≤ 9223372036854775807
  | intConst value => 0 ≤ value.toInt
  | _ => false

/-- A dimension of a field, with an extent that is a word. -/
def isFieldExtent : Ty → Bool
  | fixed _ => true
  | intConst value => 0 ≤ value.toInt
  | _ => false

def nativeNames : List String :=
  "complex[float32]" :: "complex[float64]" :: Primitive.all.map Primitive.name

/-- A native measure is a scalar with a native name, or a record of fields that have known
extents and native measures. -/
inductive NativeMeasure : Ty → Prop
  | scalar {s : Scalar} (name : s.name ∈ nativeNames) : NativeMeasure (scalar s)
  | record {fields : List (String × Ty)}
      (extents : ∀ f ∈ fields, ∀ d ∈ f.2.shape, d.isFieldExtent = true)
      (measures : ∀ f ∈ fields, NativeMeasure f.2.measure) : NativeMeasure (record fields)

/-! ## Sites -/

/-- A place where a type may fail to be an array: a dimension with the type that holds it,
or a measure that is no record. -/
inductive Site where
  | outer (dimension holder : Ty)
  | inner (dimension holder : Ty)
  | measure (measure : Ty)

def Site.fault : Site → Option ConversionError
  | outer d holder => if d.isOuterExtent then none else some (.incompatibleDimension d holder)
  | inner d holder => if d.isFieldExtent then none else some (.incompatibleDimension d holder)
  | measure (.scalar s) =>
    if s.name ∈ nativeNames then none else some (.incompatibleMeasure (.scalar s))
  | measure m => some (.incompatibleMeasure m)

mutual
def measureSites : Ty → List Site
  | datashape params _ => lastSites params
  | record fields => fieldSites fields
  | t => [.measure t]

/-- The sites in the fields of a record: for each field its dimensions, then its measure. -/
def fieldSites : List (String × Ty) → List Site
  | [] => []
  | (_, t) :: fs => t.shape.map (.inner · t) ++ (measureSites t ++ fieldSites fs)

/-- The sites in the measure of the last type. -/
def lastSites : List Ty → List Site
  | [] => []
  | [t] => measureSites t
  | _ :: t :: ts => lastSites (t :: ts)
end

/-- The sites of a type, from left to right: its dimensions, then its measure. -/
def sites (t : Ty) : List Site := t.shape.map (.outer · t) ++ t.measureSites

theorem lastSites_shaped (dims : List Ty) (m : Ty) : lastSites (dims ++ [m]) = m.measureSites := by
  induction dims with
  | nil => rfl
  | cons d dims ih =>
    cases dims with
    | nil => rfl
    | cons d' dims => exact ih

/-- The sites in the measure of a type are those of the measure itself. -/
theorem measureSites_measure {t : Ty} (h : NodeValid t) :
    t.measure.measureSites = t.measureSites := by
  cases t with
  | datashape params name =>
    rw [measureSites]
    conv_rhs => rw [params_eq_shape_append_measure (params_ne_nil h) name]
    rw [lastSites_shaped]
  | _ => rfl

/-! ## Faults -/

theorem exists_ofScalar?_iff {s : Scalar} :
    (∃ p, Primitive.ofScalar? s = some p) ↔ s.name ∈ nativeNames := by
  unfold Primitive.ofScalar? nativeNames
  rw [List.mem_cons, List.mem_cons]
  split_ifs with h32 h64
  · exact iff_of_true ⟨_, rfl⟩ (.inl h32)
  · exact iff_of_true ⟨_, rfl⟩ (.inr (.inl h64))
  · have h32' : s.name ≠ "complex[float32]" := h32
    have h64' : s.name ≠ "complex[float64]" := h64
    rw [← Option.isSome_iff_exists, Primitive.ofName?, List.find?_isSome, List.mem_map]
    simp [h32', h64']

theorem reports_outerExtent (holder d : Ty) :
    Reports Site.fault [.outer d holder] (outerExtent holder d) := by
  cases d with
  | fixed n =>
    rw [outerExtent, Word.toSigned?]
    by_cases hn : n.toNat ≤ 9223372036854775807
    · rw [if_pos hn]
      exact .of_none (by simp [Site.fault, isOuterExtent, hn]) _
    · rw [if_neg hn]
      exact .of_some (by simp [Site.fault, isOuterExtent, hn])
  | intConst value =>
    rw [outerExtent]
    split_ifs with hpos
    · exact .of_none (by simp [Site.fault, isOuterExtent, hpos]) _
    · exact .of_some (by simp [Site.fault, isOuterExtent, hpos])
  | typeVar symbol => exact .of_none rfl _
  | _ => exact .of_some rfl

theorem reports_fieldExtent (holder d : Ty) :
    Reports Site.fault [.inner d holder] (fieldExtent holder d) := by
  cases d with
  | fixed n => exact .of_none rfl _
  | intConst value =>
    rw [fieldExtent]
    by_cases hpos : 0 ≤ value.toInt
    · obtain ⟨n, hn⟩ := Word.exists_unsigned? hpos
      rw [hn]
      exact .of_none (by simp [Site.fault, isFieldExtent, hpos]) _
    · have hn : Word.unsigned? value.toInt = none := if_neg (by omega)
      rw [hn]
      exact .of_some (by simp [Site.fault, isFieldExtent, hpos])
  | _ => exact .of_some rfl

theorem reports_scalar (s : Scalar) :
    Reports Site.fault [.measure (scalar s)] (nativeElement (scalar s)) := by
  rw [nativeElement]
  cases hp : Primitive.ofScalar? s with
  | some p =>
    have hname := exists_ofScalar?_iff.mp ⟨p, hp⟩
    exact .of_none (if_pos hname) _
  | none =>
    have hname : s.name ∉ nativeNames := by
      intro hmem
      obtain ⟨p, hp'⟩ := exists_ofScalar?_iff.mpr hmem
      rw [hp] at hp'
      cases hp'
    exact .of_some (if_neg hname)

/-- The fields of a record are converted in turn, each with its dimensions first. -/
theorem reports_nativeFields {fields : List (String × Ty)}
    (h : ∀ f ∈ fields, Reports Site.fault f.2.measureSites f.2.measure.nativeElement) :
    Reports Site.fault (fieldSites fields) (nativeFields fields) := by
  induction fields with
  | nil => exact .ok []
  | cons f fields ih =>
    obtain ⟨name, t⟩ := f
    obtain ⟨hmeasure, hrest⟩ := List.forall_mem_cons.mp h
    rw [nativeFields_cons, fieldSites]
    have hextents := Reports.mapM fun d (_ : d ∈ t.shape) => reports_fieldExtent t d
    apply hextents.bind
    intro extents _
    apply hmeasure.bind
    intro element _
    exact (ih hrest).map (⟨name, element, extents⟩ :: ·)

/-- The induction goes through the measures of whole types, since fields are such types. -/
theorem reports_nativeElement {t : Ty} (hw : WellFormed t) :
    Reports Site.fault t.measureSites t.measure.nativeElement := by
  induction t using induction_on_parts with
  | step t ih =>
    cases t with
    | scalar s => exact reports_scalar s
    | record fields =>
      change Reports Site.fault (record fields).measureSites (record fields).nativeElement
      rw [measureSites, nativeElement]
      apply Reports.map
      apply reports_nativeFields
      intro f hf
      have hmem : f.2 ∈ (record fields).parts := List.mem_map_of_mem hf
      exact ih f.2 hmem (hw.of_mem_parts hmem)
    | datashape params name =>
      -- The measure of a datashape is one of its parts, and its own measure.
      have hmem := measure_mem_params (params_ne_nil hw.nodeValid) name
      have hmeasure := ih _ hmem (hw.of_mem_parts hmem)
      rwa [measure_eq_self (kind_ne_datashape_of_fits hw.nodeValid.2.1),
        measureSites_measure hw.nodeValid] at hmeasure
    | _ => exact .of_some rfl

theorem reports_toNative {t : Ty} (hw : WellFormed t) :
    Reports Site.fault t.sites t.toNative := by
  have hextents := Reports.mapM fun d (_ : d ∈ t.shape) => reports_outerExtent t d
  apply hextents.bind
  intro shape _
  exact (reports_nativeElement hw).map (ArrayForm.mk shape)

/-! ## Acceptance -/

theorem nativeMeasure_scalar_iff {s : Scalar} :
    NativeMeasure (scalar s) ↔ s.name ∈ nativeNames := by
  constructor
  · rintro ⟨hname⟩
    exact hname
  · exact NativeMeasure.scalar

theorem nativeMeasure_record_iff {fields : List (String × Ty)} :
    NativeMeasure (record fields) ↔ ∀ f ∈ fields,
      (∀ d ∈ f.2.shape, d.isFieldExtent = true) ∧ NativeMeasure f.2.measure := by
  constructor
  · rintro ⟨⟩ f hf
    rename_i hextents hmeasures
    exact ⟨hextents f hf, hmeasures f hf⟩
  · intro h
    exact .record (fun f hf => (h f hf).1) fun f hf => (h f hf).2

theorem forall_fieldSites_iff {fields : List (String × Ty)} {P : Site → Prop} :
    (∀ site ∈ fieldSites fields, P site) ↔ ∀ f ∈ fields,
      (∀ d ∈ f.2.shape, P (.inner d f.2)) ∧ ∀ site ∈ f.2.measureSites, P site := by
  induction fields with
  | nil => simp [fieldSites]
  | cons f fields ih =>
    rw [fieldSites, List.forall_mem_append, List.forall_mem_map, List.forall_mem_append, ih,
      List.forall_mem_cons, and_assoc]

theorem fault_outer_eq_none_iff {d holder : Ty} :
    (Site.outer d holder).fault = none ↔ d.isOuterExtent = true := by
  simp [Site.fault]

theorem fault_inner_eq_none_iff {d holder : Ty} :
    (Site.inner d holder).fault = none ↔ d.isFieldExtent = true := by
  simp [Site.fault]

/-- A measure is native exactly if there is no fault at any of its sites. -/
theorem nativeMeasure_iff {t : Ty} (hw : WellFormed t) :
    NativeMeasure t.measure ↔ ∀ site ∈ t.measureSites, site.fault = none := by
  induction t using induction_on_parts with
  | step t ih =>
    cases t with
    | scalar s =>
      change NativeMeasure (scalar s) ↔ ∀ site ∈ [Site.measure (scalar s)], site.fault = none
      rw [nativeMeasure_scalar_iff, List.forall_mem_singleton]
      simp [Site.fault]
    | record fields =>
      change NativeMeasure (record fields) ↔ ∀ site ∈ fieldSites fields, site.fault = none
      rw [nativeMeasure_record_iff, forall_fieldSites_iff]
      apply forall₂_congr
      intro f hf
      have hmem : f.2 ∈ (record fields).parts := List.mem_map_of_mem hf
      simp only [fault_inner_eq_none_iff, ih f.2 hmem (hw.of_mem_parts hmem)]
    | datashape params name =>
      have hmem := measure_mem_params (params_ne_nil hw.nodeValid) name
      have hmeasure := ih _ hmem (hw.of_mem_parts hmem)
      rwa [measure_eq_self (kind_ne_datashape_of_fits hw.nodeValid.2.1),
        measureSites_measure hw.nodeValid] at hmeasure
    | _ =>
      apply iff_of_false
      · rintro ⟨⟩
      · intro h
        cases h _ List.mem_cons_self

/-- A type is an array exactly if its dimensions have outer extents and its measure is
native. Otherwise the conversion fails, and the error is the first fault among the sites of
the type, from left to right. -/
theorem toNative_first_fault {t : Ty} (hw : WellFormed t) :
    ((∃ a, t.toNative = .ok a) ↔
      (∀ d ∈ t.shape, d.isOuterExtent = true) ∧ NativeMeasure t.measure) ∧
    ∀ e, t.toNative = .error e ↔ t.sites.findSome? Site.fault = some e := by
  have hreports := reports_toNative hw
  constructor
  · rw [hreports.isOk_iff, sites, List.forall_mem_append, List.forall_mem_map,
      nativeMeasure_iff hw]
    simp only [fault_outer_eq_none_iff]
  · intro e
    exact hreports.eq_error_iff

/-- A field with an open dimension around text. -/
def openText : Ty := datashape [typeVar "N", string none .utf8] (some "Lines")

/-- A table with two more columns before that field, and a tuple after it. -/
def faultyTable (dimension : Ty) : Ty :=
  datashape [fixed 3, dimension, record
    [("id", scalar .int64), ("at", datashape [intConst 2, scalar .complexFloat32] none),
     ("text", openText), ("pair", tuple [json])]] none

/-- A dimension that varies comes before all faults inside; without it, the open dimension
of the field comes before its measure. -/
theorem toNative_first_fault_faultyTable :
    (faultyTable var).toNative = .error (.incompatibleDimension var (faultyTable var)) ∧
      (faultyTable (typeVar "M")).toNative =
        .error (.incompatibleDimension (typeVar "N") openText) ∧
      ∃ a, (datashape [typeVar "M", scalar .float64] none).toNative = .ok a := by
  obtain ⟨-, houter⟩ := toNative_first_fault (show WellFormed (faultyTable var) by decide)
  obtain ⟨-, hinner⟩ := toNative_first_fault (show WellFormed (faultyTable (typeVar "M")) by decide)
  obtain ⟨haccept, -⟩ := toNative_first_fault
    (show WellFormed (datashape [typeVar "M", scalar .float64] none) by decide)
  refine ⟨(houter _).mpr rfl, (hinner _).mpr rfl, haccept.mpr ⟨?_, .scalar (by decide)⟩⟩
  intro d hd
  rw [List.mem_singleton.mp hd]
  rfl

end Ty

end ShapeAlgebra
