import Mathlib.Data.List.Nodup
import Mathlib.Data.List.Perm.Subperm
import ShapeAlgebra.Proofs.Ty.Equality

/-!
# Normal forms for equality

The normal form of a type keeps what equality sees and nothing else: the fields of records
are sorted by name, display names and the sizes of scalars are gone. Well-formed types are
equal exactly if they have the same normal form, so equality is an equivalence, and the
order of fields makes no difference to it.
-/
namespace ShapeAlgebra

section SortByName

variable {α β : Type}

def sortByName (entries : List (String × α)) : List (String × α) :=
  entries.mergeSort fun f g => f.1 ≤ g.1

theorem sortByName_perm (entries : List (String × α)) : (sortByName entries).Perm entries :=
  List.mergeSort_perm entries _

theorem pairwise_sortByName (entries : List (String × α)) :
    (sortByName entries).Pairwise fun f g => f.1 ≤ g.1 := by
  have hsorted : (sortByName entries).Pairwise fun f g => decide (f.1 ≤ g.1) = true := by
    apply List.pairwise_mergeSort
    · intro f g h hfg hgh
      exact decide_eq_true (String.le_trans (of_decide_eq_true hfg) (of_decide_eq_true hgh))
    · intro f g
      simpa using String.le_total f.1 g.1
  exact hsorted.imp of_decide_eq_true

theorem sortByName_sortByName (entries : List (String × α)) :
    sortByName (sortByName entries) = sortByName entries :=
  List.mergeSort_of_pairwise ((pairwise_sortByName entries).imp decide_eq_true)

theorem sortByName_map (f : α → β) (entries : List (String × α)) :
    sortByName (entries.map fun e => (e.1, f e.2)) =
      (sortByName entries).map fun e => (e.1, f e.2) := by
  rw [sortByName, sortByName, List.map_mergeSort]
  intro e _ e' _
  rfl

/-- Entries of distinct names come in one order only. -/
theorem sortByName_eq_iff {l l' : List (String × α)} (hd : (l.map Prod.fst).Nodup) :
    sortByName l = sortByName l' ↔ l.Perm l' := by
  constructor
  · intro h
    have hperm := (sortByName_perm l).symm
    rw [h] at hperm
    exact hperm.trans (sortByName_perm l')
  · intro h
    refine List.Perm.eq_of_pairwise ?_ (pairwise_sortByName l) (pairwise_sortByName l')
      ((sortByName_perm l).trans (h.trans (sortByName_perm l').symm))
    intro f g hf hg hfg hgf
    have hfl : f ∈ l := (sortByName_perm l).mem_iff.mp hf
    have hgl : g ∈ l := h.mem_iff.mpr ((sortByName_perm l').mem_iff.mp hg)
    exact List.inj_on_of_nodup_map hd hfl hgl (String.le_antisymm hfg hgf)

end SortByName

namespace Ty

/-- The node as equality sees it. -/
def normalNode : Ty → Ty
  | scalar s => scalar ⟨s.name, 0, 0⟩
  | datashape params _ => datashape params none
  | record fields => record (sortByName fields)
  | t => t

/-- The type as equality sees it, at every depth. -/
def normalForm : Ty → Ty := mapNodes normalNode

@[simp] theorem normalForm_units (unit : String) (value : Ty) :
    (units unit value).normalForm = units unit value.normalForm := rfl

@[simp] theorem normalForm_option (value : Ty) :
    (option value).normalForm = option value.normalForm := rfl

@[simp] theorem normalForm_datashape (params : List Ty) (name : Option String) :
    (datashape params name).normalForm = datashape (params.map normalForm) none := by
  simp [normalForm, mapNodes, normalNode]

@[simp] theorem normalForm_tuple (members : List Ty) :
    (tuple members).normalForm = tuple (members.map normalForm) := by
  simp [normalForm, mapNodes, normalNode]

@[simp] theorem normalForm_function (params : List Ty) :
    (function params).normalForm = function (params.map normalForm) := by
  simp [normalForm, mapNodes, normalNode]

@[simp] theorem normalForm_record (fields : List (String × Ty)) :
    (record fields).normalForm =
      record (sortByName (fields.map fun f => (f.1, f.2.normalForm))) := by
  simp [normalForm, mapNodes, normalNode]

theorem nodup_names_normalForm {fs : List (String × Ty)} (h : (fs.map Prod.fst).Nodup) :
    ((fs.map fun f => (f.1, f.2.normalForm)).map Prod.fst).Nodup := by
  simpa [Function.comp_def] using h

theorem kind_normalForm (t : Ty) : t.normalForm.kind = t.kind := by
  cases t <;> rfl

theorem kind_eq_of_equal {a b : Ty} (h : equal a b = true) : a.kind = b.kind := by
  rw [equal.eq_def] at h
  split at h
  case h_22 => cases h
  all_goals rfl

/-! ## Equality is equality of normal forms -/

theorem equalAll_iff_map_eq {ts us : List Ty}
    (h : ∀ t ∈ ts, ∀ u ∈ us, equal t u = true ↔ t.normalForm = u.normalForm) :
    equalAll ts us = true ↔ ts.map normalForm = us.map normalForm := by
  induction ts generalizing us with
  | nil => cases us <;> simp [equalAll]
  | cons t ts ih =>
    cases us with
    | nil => simp [equalAll]
    | cons u us =>
      have hhead := h t List.mem_cons_self u List.mem_cons_self
      have htail := ih fun t' ht u' hu =>
        h t' (List.mem_cons_of_mem t ht) u' (List.mem_cons_of_mem u hu)
      simp [equalAll, hhead, htail]

theorem mem_of_lookup {fs : List (String × Ty)} {name : String} {t : Ty}
    (h : fs.lookup name = some t) : (name, t) ∈ fs := by
  obtain ⟨before, after, rfl, -⟩ := List.lookup_eq_some_iff.mp h
  exact List.mem_append_right before List.mem_cons_self

/-- Among distinct names, finding an equal namesake for every field is to have all normal
fields. -/
theorem equalFields_iff_subset {fs gs : List (String × Ty)} (hd : (gs.map Prod.fst).Nodup)
    (h : ∀ f ∈ fs, ∀ g ∈ gs, equal g.2 f.2 = true ↔ g.2.normalForm = f.2.normalForm) :
    equalFields fs gs = true ↔
      (fs.map fun f => (f.1, f.2.normalForm)) ⊆ gs.map fun g => (g.1, g.2.normalForm) := by
  rw [equalFields_iff, List.subset_def, List.forall_mem_map]
  refine forall₂_congr fun f hf => ?_
  rw [List.mem_map]
  constructor
  · rintro ⟨u, hu, heq⟩
    have hmem := mem_of_lookup hu
    exact ⟨(f.1, u), hmem, by rw [(h f hf _ hmem).mp heq]⟩
  · rintro ⟨g, hg, heq⟩
    obtain ⟨hname, hform⟩ := Prod.mk.inj heq
    exact ⟨g.2, hname ▸ lookup_of_mem hd hg, (h f hf g hg).mpr hform⟩

/-- With as many fields on either side, having all of them is being a permutation. So the
one-sided search of record equality does not depend on the side. -/
theorem equal_record_iff {fs gs : List (String × Ty)} (hfs : (fs.map Prod.fst).Nodup)
    (hgs : (gs.map Prod.fst).Nodup)
    (h : ∀ f ∈ fs, ∀ g ∈ gs, equal g.2 f.2 = true ↔ g.2.normalForm = f.2.normalForm) :
    equal (record fs) (record gs) = true ↔
      (record fs).normalForm = (record gs).normalForm := by
  have hnames := nodup_names_normalForm hfs
  rw [normalForm_record, normalForm_record, record.injEq, sortByName_eq_iff hnames, equal,
    Bool.and_eq_true, beq_iff_eq, equalFields_iff_subset hgs h]
  constructor
  · rintro ⟨hlen, hsub⟩
    exact (List.subperm_of_subset (.of_map _ hnames) hsub).perm_of_length_le (by simp [hlen])
  · intro hperm
    exact ⟨by simpa using hperm.length_eq, hperm.subset⟩

/-- One node: the parts of records are compared the other way round, those of other types
the same way. -/
theorem equal_iff_of_parts {a b : Ty} (ha : NodeValid a) (hb : NodeValid b)
    (hparts : ∀ u ∈ a.parts, ∀ v ∈ b.parts, equal u v = true ↔ u.normalForm = v.normalForm)
    (hturned : ∀ u ∈ a.parts, ∀ v ∈ b.parts, equal v u = true ↔ v.normalForm = u.normalForm) :
    equal a b = true ↔ a.normalForm = b.normalForm := by
  by_cases hk : a.kind = b.kind
  · cases a with
    | record fs =>
      cases b with
      | record gs =>
        exact equal_record_iff ha.1 hb.1 fun f hf g hg =>
          hturned f.2 (List.mem_map_of_mem hf) g.2 (List.mem_map_of_mem hg)
      | _ => cases hk
    | datashape params name | tuple members | function params =>
      cases b <;> cases hk
      simpa [equal, parts] using equalAll_iff_map_eq hparts
    | units unit value | option value =>
      cases b <;> cases hk
      simp [equal, hparts value List.mem_cons_self _ List.mem_cons_self]
    | _ =>
      cases b <;> cases hk
      simp [equal, normalForm, mapNodes, normalNode]
  · refine iff_of_false (fun h => hk (kind_eq_of_equal h)) fun h => hk ?_
    rw [← kind_normalForm a, h, kind_normalForm]

/-- The two orders of comparison go into each other with every record, so one induction
takes both. -/
theorem equal_iff_both {a b : Ty} (ha : WellFormed a) (hb : WellFormed b) :
    (equal a b = true ↔ a.normalForm = b.normalForm) ∧
      (equal b a = true ↔ b.normalForm = a.normalForm) := by
  induction a using induction_on_parts generalizing b with
  | step a ih =>
    have hparts : ∀ u ∈ a.parts, ∀ v ∈ b.parts,
        (equal u v = true ↔ u.normalForm = v.normalForm) ∧
          (equal v u = true ↔ v.normalForm = u.normalForm) :=
      fun u hu v hv => ih u hu (ha.of_mem_parts hu) (hb.of_mem_parts hv)
    constructor
    · exact equal_iff_of_parts ha.nodeValid hb.nodeValid (fun u hu v hv => (hparts u hu v hv).1)
        fun u hu v hv => (hparts u hu v hv).2
    · exact equal_iff_of_parts hb.nodeValid ha.nodeValid (fun v hv u hu => (hparts u hu v hv).2)
        fun v hv u hu => (hparts u hu v hv).1

theorem equal_iff {a b : Ty} (ha : WellFormed a) (hb : WellFormed b) :
    equal a b = true ↔ a.normalForm = b.normalForm :=
  (equal_iff_both ha hb).1

theorem equal_comm {a b : Ty} (ha : WellFormed a) (hb : WellFormed b) :
    equal a b = equal b a := by
  rw [Bool.eq_iff_iff, equal_iff ha hb, equal_iff hb ha, eq_comm]

theorem equal_trans {a b c : Ty} (ha : WellFormed a) (hb : WellFormed b) (hc : WellFormed c)
    (hab : equal a b = true) (hbc : equal b c = true) : equal a c = true := by
  rw [equal_iff ha hc, (equal_iff ha hb).mp hab, (equal_iff hb hc).mp hbc]

/-! ## The order of fields -/

/-- The second type is the first with the fields of some records, at any depth, in another
order. -/
inductive Reordered : Ty → Ty → Prop
  | refl (t) : Reordered t t
  | trans {a b c} (hab : Reordered a b) (hbc : Reordered b c) : Reordered a c
  | fields {fs gs} (h : fs.Perm gs) : Reordered (record fs) (record gs)
  | units {unit p q} (h : Reordered p q) : Reordered (units unit p) (units unit q)
  | datashape {ps p q qs name} (h : Reordered p q) :
    Reordered (datashape (ps ++ p :: qs) name) (datashape (ps ++ q :: qs) name)
  | record {fs name p q gs} (h : Reordered p q) :
    Reordered (record (fs ++ (name, p) :: gs)) (record (fs ++ (name, q) :: gs))
  | tuple {ps p q qs} (h : Reordered p q) :
    Reordered (tuple (ps ++ p :: qs)) (tuple (ps ++ q :: qs))
  | function {ps p q qs} (h : Reordered p q) :
    Reordered (function (ps ++ p :: qs)) (function (ps ++ q :: qs))
  | option {p q} (h : Reordered p q) : Reordered (option p) (option q)

theorem nodeValid_datashape_iff {params : List Ty} {name : Option String} :
    NodeValid (datashape params name) ↔
      2 ≤ (params.map kind).length ∧
        ((params.map kind).getLastD .datashape).fits .measure = true ∧
        ∀ k ∈ (params.map kind).dropLast, k.fits .dimension = true := by
  have hmeasure : (datashape params name).measure.kind = (params.map kind).getLastD .datashape := by
    rw [measure, List.getLastD_eq_getLast?, List.getLastD_eq_getLast?, List.getLast?_map]
    cases params.getLast? <;> rfl
  rw [NodeValid, fits, hmeasure, List.length_map, ← List.map_dropLast, List.forall_mem_map]
  rfl

theorem forall_mem_replace {α : Type} {P : α → Prop} {before after : List α} {x y : α}
    (hxy : P x → P y) (h : ∀ z ∈ before ++ x :: after, P z) : ∀ z ∈ before ++ y :: after, P z := by
  simp only [List.forall_mem_append, List.forall_mem_cons] at h ⊢
  exact ⟨h.1, hxy h.2.1, h.2.2⟩

namespace Reordered

variable {a b : Ty}

theorem kind_eq (h : Reordered a b) : a.kind = b.kind := by
  induction h with
  | trans _ _ hab hbc => exact hab.trans hbc
  | _ => rfl

theorem isStandalone (h : Reordered a b) (ha : a.isStandalone = true) :
    b.isStandalone = true := by
  rwa [Ty.isStandalone, ← h.kind_eq]

/-- Reordering keeps the kinds of all parts and the names of all fields. -/
theorem wellFormed (h : Reordered a b) (ha : WellFormed a) : WellFormed b := by
  induction h with
  | refl t => exact ha
  | trans _ _ hab hbc => exact hbc (hab ha)
  | @fields fs gs h =>
    obtain ⟨hnames, hfields⟩ := ha.nodeValid
    refine wellFormed_iff.mpr ⟨⟨(h.map _).nodup_iff.mp hnames, fun f hf => ?_⟩, fun p hp => ?_⟩
    · exact hfields f (h.mem_iff.mpr hf)
    · exact ha.of_mem_parts ((h.map _).mem_iff.mpr hp)
  | units h ih =>
    refine wellFormed_iff.mpr ⟨h.isStandalone ha.nodeValid, ?_⟩
    exact List.forall_mem_singleton.mpr (ih (ha.of_mem_parts List.mem_cons_self))
  | option h ih =>
    refine wellFormed_iff.mpr ⟨?_, ?_⟩
    · exact (congrArg Kind.position? h.kind_eq).symm.trans ha.nodeValid
    · exact List.forall_mem_singleton.mpr (ih (ha.of_mem_parts List.mem_cons_self))
  | datashape h ih =>
    refine wellFormed_iff.mpr ⟨?_, forall_mem_replace ih fun t ht => ha.of_mem_parts ht⟩
    have hvalid := nodeValid_datashape_iff.mp ha.nodeValid
    rw [List.map_append, List.map_cons, h.kind_eq] at hvalid
    exact nodeValid_datashape_iff.mpr (by rwa [List.map_append, List.map_cons])
  | record h ih =>
    obtain ⟨hnames, hfields⟩ := ha.nodeValid
    refine wellFormed_iff.mpr ⟨⟨by simpa using hnames, ?_⟩, ?_⟩
    · exact forall_mem_replace h.isStandalone hfields
    · rw [parts, List.forall_mem_map]
      exact forall_mem_replace ih fun f hf => ha.of_mem_parts (List.mem_map_of_mem hf)
  | tuple h ih =>
    exact wellFormed_iff.mpr ⟨forall_mem_replace h.isStandalone ha.nodeValid,
      forall_mem_replace ih fun t ht => ha.of_mem_parts ht⟩
  | function h ih =>
    exact wellFormed_iff.mpr ⟨⟨by simp, forall_mem_replace h.isStandalone ha.nodeValid.2⟩,
      forall_mem_replace ih fun t ht => ha.of_mem_parts ht⟩

theorem normalForm_eq (h : Reordered a b) (ha : WellFormed a) : a.normalForm = b.normalForm := by
  induction h with
  | refl t => rfl
  | trans h _ hab hbc => exact (hab ha).trans (hbc (h.wellFormed ha))
  | @fields fs gs h =>
    have hnames := nodup_names_normalForm ha.nodeValid.1
    rw [normalForm_record, normalForm_record, (sortByName_eq_iff hnames).mpr (h.map _)]
  | units h ih | option h ih =>
    have hpart := ih (ha.of_mem_parts List.mem_cons_self)
    simp [hpart]
  | datashape h ih | tuple h ih | function h ih =>
    have hpart := ih (ha.of_mem_parts (List.mem_append_right _ List.mem_cons_self))
    simp [hpart]
  | record h ih =>
    have hpart := ih (ha.of_mem_parts
      (List.mem_map_of_mem (List.mem_append_right _ List.mem_cons_self)))
    simp [hpart]

end Reordered

/-- Types are equal exactly if their normal forms are the same. So equality is reflexive,
symmetric and transitive, and putting the fields of records in another order, at any depth,
does not change it. -/
theorem equal_iff_normalForm_eq {a b c : Ty} (ha : WellFormed a) (hb : WellFormed b)
    (hc : WellFormed c) :
    ((a == b) = true ↔ a.normalForm = b.normalForm) ∧
      (a == a) = true ∧
      ((a == b) = true → (b == a) = true) ∧
      ((a == b) = true → (b == c) = true → (a == c) = true) ∧
      ∀ a' b', Reordered a a' → Reordered b b' → (a' == b') = (a == b) := by
  refine ⟨equal_iff ha hb, equal_refl ha, fun hab => (equal_comm hb ha).trans hab,
    equal_trans ha hb hc, fun a' b' haa' hbb' => ?_⟩
  change equal a' b' = equal a b
  rw [Bool.eq_iff_iff, equal_iff (haa'.wellFormed ha) (hbb'.wellFormed hb), equal_iff ha hb,
    haa'.normalForm_eq ha, hbb'.normalForm_eq hb]

/-- Named columns of records with two fields each, one of them in units. -/
def sampleColumns : Ty :=
  datashape [fixed 3, tuple [json, units "s" (record [("v", date), ("u", scalar .int8)])]]
    (some "Columns")

/-- The same columns with their fields in the other order. -/
def turnedColumns : Ty :=
  datashape [fixed 3, tuple [json, units "s" (record [("u", scalar .int8), ("v", date)])]]
    (some "Columns")

/-- Columns without a name, and with other sizes. -/
def plainColumns : Ty :=
  datashape [fixed 3, tuple [json, units "s" (record [("u", scalar ⟨"int8", 0, 0⟩), ("v", date)])]]
    none

theorem equal_iff_normalForm_eq_sampleColumns :
    WellFormed sampleColumns ∧ WellFormed plainColumns ∧
      sampleColumns.normalForm = plainColumns.normalForm ∧
      (plainColumns == sampleColumns) = true ∧
      (turnedColumns == plainColumns) = (sampleColumns == plainColumns) := by
  have hsample : WellFormed sampleColumns := by decide
  have hplain : WellFormed plainColumns := by decide
  have hturned : Reordered sampleColumns turnedColumns :=
    @Reordered.datashape [fixed 3] _ _ [] _
      (@Reordered.tuple [json] _ _ [] (.units (.fields (.swap _ _ _))))
  obtain ⟨hiff, -, hsymm, -, hreordered⟩ := equal_iff_normalForm_eq hsample hplain hsample
  have hequal : (sampleColumns == plainColumns) = true := by decide +kernel
  exact ⟨hsample, hplain, hiff.mp hequal, hsymm hequal, hreordered _ _ hturned (.refl _)⟩

end Ty

end ShapeAlgebra
