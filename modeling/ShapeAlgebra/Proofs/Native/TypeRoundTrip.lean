import ShapeAlgebra.Proofs.Native.Conversion
import ShapeAlgebra.Proofs.Ty.Equality
import ShapeAlgebra.Proofs.Ty.Traversal

/-!
# From types to native arrays and back

What a native array keeps of a type. A concrete type comes back in its native form: display
names are gone, constant extents are fixed dimensions, and scalars are the built-in ones.
An extent that was left open is a wildcard, and no type comes back.
-/
namespace ShapeAlgebra

open Native

namespace Ty

/-- The node that comes back from a native array. -/
def nativeNode : Ty → Ty
  | datashape params _ => datashape params none
  | intConst value =>
    match Word.unsigned? value.toInt with
    | some extent => fixed extent
    | none => intConst value
  | scalar s =>
    match Primitive.ofScalar? s with
    | some p => scalar p.toScalar
    | none => scalar s
  | t => t

/-- The type that comes back from a native array. -/
def nativeForm : Ty → Ty := mapNodes nativeNode

@[simp] theorem nativeForm_datashape (params : List Ty) (name : Option String) :
    (datashape params name).nativeForm = datashape (params.map nativeForm) none := by
  simp [nativeForm, mapNodes, nativeNode]

@[simp] theorem nativeForm_record (fields : List (String × Ty)) :
    (record fields).nativeForm = record (fields.map fun f => (f.1, f.2.nativeForm)) := by
  simp [nativeForm, mapNodes, nativeNode]

theorem nativeForm_intConst (value : Int64) :
    (intConst value).nativeForm = nativeNode (intConst value) := rfl

theorem nativeForm_scalar (s : Scalar) : (scalar s).nativeForm = nativeNode (scalar s) := rfl

theorem kind_nativeForm (t : Ty) :
    t.nativeForm.kind = t.kind ∨ t.kind = .intConst ∧ t.nativeForm.kind = .fixed := by
  cases t with
  | intConst value =>
    rw [nativeForm_intConst, nativeNode]
    split
    · exact .inr ⟨rfl, rfl⟩
    · exact .inl rfl
  | scalar s =>
    rw [nativeForm_scalar, nativeNode]
    split <;> exact .inl rfl
  | _ => exact .inl rfl

theorem fits_nativeForm (t : Ty) (p : Position) : t.nativeForm.fits p = t.fits p := by
  rw [fits, fits]
  rcases kind_nativeForm t with h | ⟨h, h'⟩
  · rw [h]
  · rw [h, h']
    rfl

theorem isStandalone_nativeForm (t : Ty) : t.nativeForm.isStandalone = t.isStandalone := by
  rw [isStandalone, isStandalone]
  rcases kind_nativeForm t with h | ⟨h, h'⟩
  · rw [h]
  · rw [h, h']
    rfl

theorem nodeValid_nativeForm_record {fields : List (String × Ty)} (h : NodeValid (record fields)) :
    NodeValid (record (fields.map fun f => (f.1, f.2.nativeForm))) := by
  obtain ⟨hnames, hfields⟩ := h
  refine ⟨by simpa [Function.comp_def] using hnames, ?_⟩
  rw [List.forall_mem_map]
  exact fun f hf => (isStandalone_nativeForm f.2).trans (hfields f hf)

theorem shaped_nativeForm {t : Ty} (h : NodeValid t) :
    shaped (t.shape.map nativeForm) t.measure.nativeForm = .ok t.nativeForm := by
  cases t with
  | datashape params name =>
    rcases List.eq_nil_or_concat' params with rfl | ⟨dims, m, rfl⟩
    · exact absurd h.1 (by decide)
    obtain ⟨hne, hm, hdims⟩ := nodeValid_shaped_iff.mp h
    rw [shape_shaped, measure_shaped, shaped, if_neg (by simpa using hne), checked_eq_ok_iff,
      makeShaped_eq_ok_iff]
    refine ⟨by simpa using hne, by rwa [fits_nativeForm], ?_, by simp⟩
    simpa [fits_nativeForm] using hdims
  | _ => rfl

/-! ## Extents -/

theorem nativeForm_of_fieldExtent {holder d : Ty} {extent : UInt64}
    (h : fieldExtent holder d = .ok extent) :
    d.nativeForm = fixed extent ∧ d.isConcrete = true := by
  cases d with
  | fixed n =>
    obtain rfl := Except.ok.inj h
    exact ⟨rfl, rfl⟩
  | intConst value =>
    cases hn : Word.unsigned? value.toInt with
    | none =>
      rw [fieldExtent, hn] at h
      cases h
    | some n =>
      rw [fieldExtent, hn] at h
      obtain rfl := Except.ok.inj h
      rw [nativeForm_intConst, nativeNode, hn]
      exact ⟨rfl, rfl⟩
  | _ => cases h

/-- An outer extent is a wildcard exactly if its dimension is open; otherwise the dimension
comes back in its native form. -/
theorem makeFixed_of_outerExtent {holder d : Ty} {extent : Int64}
    (h : outerExtent holder d = .ok extent) :
    d.isConcrete = true ∧ extent ≠ wildcard ∧ makeFixed extent = .ok d.nativeForm ∨
      d.isConcrete = false ∧ extent = wildcard := by
  have hne : ∀ {extent t}, makeFixed extent = .ok t → extent ≠ wildcard := by
    rintro extent t hmade rfl
    cases hmade
  cases d with
  | fixed n =>
    rw [outerExtent] at h
    split at h <;> cases h
    rename_i hn
    have hmade : makeFixed extent = .ok (fixed n) :=
      makeFixed_eq_ok_iff.mpr ⟨n, Word.toSigned?_eq_some_iff.mp hn, rfl⟩
    exact .inl ⟨rfl, hne hmade, hmade⟩
  | intConst value =>
    rw [outerExtent] at h
    split_ifs at h with hpos
    obtain rfl := Except.ok.inj h
    have hmade : makeFixed value = .ok (intConst value).nativeForm := by
      obtain ⟨n, hn⟩ := Word.exists_unsigned? hpos
      simp only [makeFixed, nativeForm_intConst, nativeNode, hn]
    exact .inl ⟨rfl, hne hmade, hmade⟩
  | typeVar symbol =>
    obtain rfl := Except.ok.inj h
    exact .inr ⟨rfl, rfl⟩
  | _ => cases h

theorem map_nativeForm_of_fieldExtent {holder : Ty} {dims : List Ty} {extents : List UInt64}
    (h : dims.mapM (fieldExtent holder) = .ok extents) :
    dims.map nativeForm = extents.map fixed := by
  have hpairs : List.Forall₂ (· = ·) (dims.map nativeForm) (extents.map fixed) := by
    rw [List.forall₂_map_left_iff, List.forall₂_map_right_iff]
    exact (mapM_eq_ok_iff.mp h).imp fun _ _ hd => (nativeForm_of_fieldExtent hd).1
  rwa [List.forall₂_eq_eq_eq] at hpairs

theorem all_isConcrete_iff {holder : Ty} {dims : List Ty} {shape : List Int64}
    (h : dims.mapM (outerExtent holder) = .ok shape) :
    dims.all isConcrete = true ↔ wildcard ∉ shape := by
  rw [mapM_eq_ok_iff] at h
  induction h with
  | nil => simp
  | cons hd _ ih =>
    rw [List.all_cons, Bool.and_eq_true, ih, List.mem_cons, not_or]
    rcases makeFixed_of_outerExtent hd with ⟨hconcrete, hne, -⟩ | ⟨hopen, rfl⟩
    · simp [hconcrete, hne.symm]
    · simp [hopen]

/-- The extents come back as dimensions until the first wildcard. -/
theorem mapM_makeFixed {holder : Ty} {dims : List Ty} {shape : List Int64}
    (h : dims.mapM (outerExtent holder) = .ok shape) :
    shape.mapM (fun extent => checked (makeFixed extent)) =
      if dims.all isConcrete then .ok (dims.map nativeForm)
      else .error (.violation (.negativeDimension wildcard)) := by
  rw [mapM_eq_ok_iff] at h
  induction h with
  | nil => rfl
  | cons hd _ ih =>
    rw [List.all_cons, List.mapM_cons, ih]
    rcases makeFixed_of_outerExtent hd with ⟨hconcrete, -, hmade⟩ | ⟨hopen, rfl⟩
    · rw [hconcrete, hmade, Bool.true_and]
      split_ifs <;> rfl
    · rw [hopen, Bool.false_and]
      rfl

/-! ## Elements -/

/-- Fields come back in their native form if their measures do. -/
theorem toType_nativeFields {r : Registry} {fields : List (String × Ty)}
    (h : ∀ f ∈ fields, NodeValid f.2 ∧ ∀ d, f.2.measure.nativeElement = .ok d →
      d.toType r = .ok f.2.measure.nativeForm ∧ f.2.measure.isConcrete = true)
    {gs : List Field} (hgs : nativeFields fields = .ok gs) (offset : UInt64) :
    fieldTypes r (place offset gs) = .ok (fields.map fun f => (f.1, f.2.nativeForm)) ∧
      ∀ f ∈ fields, f.2.isConcrete = true := by
  induction fields generalizing gs offset with
  | nil =>
    obtain rfl := Except.ok.inj hgs
    exact ⟨rfl, by simp⟩
  | cons f fields ih =>
    obtain ⟨name, t⟩ := f
    obtain ⟨hvalid, hmeasure⟩ := h _ List.mem_cons_self
    rw [nativeFields_cons] at hgs
    obtain ⟨extents, hextents, hgs⟩ := bind_eq_ok_iff.mp hgs
    obtain ⟨element, helement, hgs⟩ := bind_eq_ok_iff.mp hgs
    obtain ⟨rest, hrest, hgs⟩ := bind_eq_ok_iff.mp hgs
    obtain rfl := Except.ok.inj hgs
    obtain ⟨htype, hconcrete⟩ := hmeasure element helement
    obtain ⟨htypes, hrest⟩ := ih (fun f hf => h f (List.mem_cons_of_mem _ hf)) hrest
      (offset + .ofNat (Field.size ⟨name, element, extents⟩))
    have hshaped := shaped_nativeForm hvalid
    rw [map_nativeForm_of_fieldExtent hextents] at hshaped
    constructor
    · rw [place, fieldTypes, htype, htypes]
      change (shaped _ _ >>= _) = _
      rw [hshaped]
      rfl
    · rw [List.forall_mem_cons]
      refine ⟨?_, hrest⟩
      rw [isConcrete_eq_shape_and_measure hvalid, hconcrete, Bool.and_true, List.all_eq_true]
      intro d hd
      obtain ⟨extent, hextent⟩ := exists_ok_of_mem hextents hd
      exact (nativeForm_of_fieldExtent hextent).2

/-- The element of a type gives back the measure in its native form; nothing in it is open.
The induction goes through the measures of whole types, since fields are such types. -/
theorem toType_nativeElement {r : Registry} (hr : r.Seeded) {t : Ty} (hw : WellFormed t)
    {d : Descriptor} (h : t.measure.nativeElement = .ok d) :
    d.toType r = .ok t.measure.nativeForm ∧ t.measure.isConcrete = true := by
  induction t using induction_on_parts generalizing d with
  | step t ih =>
    cases t with
    | scalar s =>
      change nativeElement (scalar s) = .ok d at h
      rw [nativeElement] at h
      split at h <;> cases h
      rename_i p hp
      rw [Descriptor.toType, scalarType_eq hr]
      change _ = Except.ok (scalar s).nativeForm ∧ _
      rw [nativeForm_scalar, nativeNode, hp]
      exact ⟨rfl, rfl⟩
    | record fields =>
      change nativeElement (record fields) = .ok d at h
      change _ = Except.ok (record fields).nativeForm ∧ (record fields).isConcrete = true
      rw [nativeElement] at h
      obtain ⟨gs, hgs, rfl⟩ := map_eq_ok_iff.mp h
      have hparts : ∀ f ∈ fields, f.2 ∈ (record fields).parts :=
        fun f hf => List.mem_map_of_mem hf
      obtain ⟨htypes, hconcrete⟩ := toType_nativeFields (fun f hf =>
        ⟨(hw.of_mem_parts (hparts f hf)).nodeValid,
          fun d => ih f.2 (hparts f hf) (hw.of_mem_parts (hparts f hf))⟩) hgs 0
      rw [Descriptor.structured, Descriptor.toType, htypes, nativeForm_record,
        isConcrete_record, List.all_eq_true]
      refine ⟨checked_eq_ok_iff.mpr (makeRecord_eq_ok_iff.mpr ⟨?_, rfl⟩), hconcrete⟩
      exact nodeValid_nativeForm_record hw.nodeValid
    | datashape params name =>
      have hself := measure_eq_self (kind_ne_datashape_of_fits hw.nodeValid.2.1)
      have hmem := measure_mem_params (params_ne_nil hw.nodeValid) name
      have hmeasure := ih _ hmem (hw.of_mem_parts hmem) (d := d)
      rw [hself] at hmeasure
      exact hmeasure h
    | _ => cases h

/-! ## Whole types -/

/-- The node is no constant extent, and no scalar that goes by the native name of a complex
number. -/
def keepsName : Ty → Bool
  | intConst _ => false
  | scalar s => s.name != "complex64" && s.name != "complex128"
  | _ => true

theorem keepsName_of_kind_eq {u v : Ty} (hk : u.kind = v.kind) (hs : u.kind ≠ .scalar)
    (hu : u.keepsName = true) : v.keepsName = true := by
  cases v with
  | intConst value =>
    cases u <;> cases hk
    exact hu
  | scalar s => exact absurd hk hs
  | _ => rfl

theorem name_toScalar {s : Scalar} {p : Primitive} (hp : Primitive.ofScalar? s = some p)
    (h : (scalar s).keepsName = true) : p.toScalar.name = s.name := by
  unfold Primitive.ofScalar? at hp
  split_ifs at hp with h32 h64
  · obtain rfl := Option.some.inj hp
    exact h32.symm
  · obtain rfl := Option.some.inj hp
    exact h64.symm
  · have hname : p.name = s.name := by simpa using List.find?_some hp
    rw [keepsName, ← hname] at h
    rw [← hname]
    cases p with
    | complex64 | complex128 => exact absurd h (by decide)
    | _ => rfl

theorem interchangeable_nativeNode {u : Ty} (hu : u.keepsName = true) :
    Interchangeable (nativeNode u) u := by
  cases u with
  | intConst value => cases hu
  | scalar s =>
    rw [nativeNode]
    split
    · next p hp =>
      constructor
      all_goals
        intro v
        cases v <;> simp [equal, name_toScalar hp hu]
    · exact ⟨fun _ => rfl, fun _ => rfl⟩
  | datashape params name =>
    constructor
    all_goals
      intro v
      cases v <;> simp [nativeNode, equal]
  | _ => exact ⟨fun _ => rfl, fun _ => rfl⟩

/-- Nothing but constant extents and the names of complex numbers is lost to equality. -/
theorem equal_nativeForm {t : Ty} (hw : WellFormed t) (h : ∀ u ∈ t.nodes, u.keepsName = true) :
    equal t.nativeForm t = true := by
  have hkeep := interchangeable_mapNodes (fun _ _ => keepsName_of_kind_eq)
    (fun _ => interchangeable_nativeNode) h
  rw [nativeForm, hkeep.left, equal_refl hw]

theorem toType_eq_bind {r : Registry} {a : ArrayForm} {m : Ty} (h : a.element.toType r = .ok m) :
    a.toType r = (a.shape.mapM fun extent => checked (makeFixed extent)) >>= fun dims =>
      shaped dims m := by
  rw [ArrayForm.toType, h]
  rfl

/-- A type with a native array is concrete if no extent of the array is a wildcard. Then its
native form comes back, which is equal to the type unless constant extents or complex
numbers were renamed. If the type is open, the first wildcard is refused as an extent. -/
theorem toType_of_toNative {r : Registry} (hr : r.Seeded) {t : Ty} (hw : WellFormed t)
    {a : ArrayForm} (h : t.toNative = .ok a) :
    (t.isConcrete = true ↔ wildcard ∉ a.shape) ∧
      (t.isConcrete = true → a.toType r = .ok t.nativeForm ∧
        ((∀ u ∈ t.nodes, u.keepsName = true) → (t.nativeForm == t) = true)) ∧
      (t.isConcrete = false → a.toType r = .error (.violation (.negativeDimension (-1)))) := by
  obtain ⟨shape, hshape, h⟩ := bind_eq_ok_iff.mp h
  obtain ⟨element, helement, h⟩ := bind_eq_ok_iff.mp h
  obtain rfl := Except.ok.inj h
  obtain ⟨htype, hmeasure⟩ := toType_nativeElement hr hw helement
  have hconcrete : t.isConcrete = t.shape.all isConcrete := by
    rw [isConcrete_eq_shape_and_measure hw.nodeValid, hmeasure, Bool.and_true]
  have hback := mapM_makeFixed hshape
  refine ⟨by rw [hconcrete, all_isConcrete_iff hshape], fun hc => ⟨?_, equal_nativeForm hw⟩, ?_⟩
  · rw [← hconcrete, hc, if_pos rfl] at hback
    rw [toType_eq_bind htype, hback]
    exact shaped_nativeForm hw.nodeValid
  · intro hc
    rw [← hconcrete, hc] at hback
    rw [toType_eq_bind htype, hback]
    rfl

/-- A named table whose rows hold named pairs. -/
def sampleTable (dimension : Ty) : Ty :=
  datashape [dimension, fixed 2, record
    [("pair", datashape [fixed 2, scalar ⟨"complex[float32]", 0, 0⟩] (some "Pair")),
     ("flag", scalar .bool)]] (some "Table")

theorem toType_of_toNative_sampleTable :
    (∃ a, (sampleTable (fixed 3)).toNative = .ok a ∧ wildcard ∉ a.shape ∧
      a.toType .builtin = .ok (sampleTable (fixed 3)).nativeForm ∧
      ((sampleTable (fixed 3)).nativeForm == sampleTable (fixed 3)) = true) ∧
    ∃ a, (sampleTable (typeVar "N")).toNative = .ok a ∧
      a.toType .builtin = .error (.violation (.negativeDimension (-1))) := by
  constructor
  · have hnative : (sampleTable (fixed 3)).toNative = .ok _ := rfl
    obtain ⟨hiff, hconcrete, -⟩ :=
      toType_of_toNative Registry.builtin_seeded (by decide) hnative
    obtain ⟨htype, hequal⟩ := hconcrete rfl
    exact ⟨_, hnative, hiff.mp rfl, htype, hequal (by decide)⟩
  · have hnative : (sampleTable (typeVar "N")).toNative = .ok _ := rfl
    exact ⟨_, hnative, (toType_of_toNative Registry.builtin_seeded (by decide) hnative).2.2 rfl⟩

end Ty

end ShapeAlgebra
