import Mathlib.Data.List.Perm.Basic
import ShapeAlgebra.Proofs.Alike
import ShapeAlgebra.Proofs.Ty.Dimensions
import ShapeAlgebra.Proofs.Ty.NormalForm
import ShapeAlgebra.Proofs.Ty.Traversal

/-!
# What equal types have in common

Whatever can be observed of a type can be observed of its normal form: its kind, its
dimensions and measure, whether it is concrete, and its variables up to their order. So
equal types cannot be told apart, and what is left of them after dropping or generalising
dimensions is equal again. The checked constructors cannot tell equal parts apart either.
-/
namespace ShapeAlgebra

section Matched

variable {α β γ : Type}

theorem forall₂_imp_mem {R S : α → β → Prop} {l : List α} {u : List β} (h : List.Forall₂ R l u)
    (himp : ∀ a ∈ l, ∀ b ∈ u, R a b → S a b) : List.Forall₂ S l u := by
  induction h with
  | nil => exact .nil
  | cons hab _ ih =>
    refine .cons (himp _ List.mem_cons_self _ List.mem_cons_self hab) (ih ?_)
    intro a ha b hb
    exact himp a (List.mem_cons_of_mem _ ha) b (List.mem_cons_of_mem _ hb)

theorem exists_of_mem_left {R : α → β → Prop} {l : List α} {u : List β}
    (h : List.Forall₂ R l u) {a : α} (ha : a ∈ l) : ∃ b ∈ u, R a b := by
  induction h with
  | nil => cases ha
  | cons hab _ ih =>
    rcases List.mem_cons.mp ha with rfl | ha
    · exact ⟨_, List.mem_cons_self, hab⟩
    · obtain ⟨b, hb, hR⟩ := ih ha
      exact ⟨b, List.mem_cons_of_mem _ hb, hR⟩

theorem forall₂_iff_map_eq {f : α → γ} {g : β → γ} {l : List α} {u : List β} :
    List.Forall₂ (fun a b => f a = g b) l u ↔ l.map f = u.map g := by
  rw [← List.forall₂_eq_eq_eq, List.forall₂_map_left_iff, List.forall₂_map_right_iff]

/-- Lists with the same keys up to order match one by one after a permutation. -/
theorem exists_perm_forall₂ {f : α → γ} {g : β → γ} {l : List α} {u : List β}
    (h : (l.map f).Perm (u.map g)) :
    ∃ u', List.Forall₂ (fun a b => f a = g b) l u' ∧ u'.Perm u := by
  obtain ⟨u', hu', hperm⟩ := (congrFun₂ (List.eq_map_comp_perm g) (l.map f) u).mpr h
  exact ⟨u', forall₂_iff_map_eq.mpr hu', hperm⟩

end Matched

namespace Ty

variable {a b : Ty}

/-! ## Observations of normal forms -/

theorem shape_normalForm (t : Ty) : t.normalForm.shape = t.shape.map normalForm := by
  cases t with
  | datashape params name => rw [normalForm_datashape, shape, shape, List.map_dropLast]
  | _ => rfl

theorem measure_normalForm (t : Ty) : t.normalForm.measure = t.measure.normalForm := by
  by_cases hk : t.kind = .datashape
  · obtain ⟨params, name, rfl⟩ := exists_eq_datashape hk
    rw [normalForm_datashape, measure, measure, List.getLastD_eq_getLast?,
      List.getLastD_eq_getLast?, List.getLast?_map]
    cases params.getLast? <;> simp
  · rw [measure_eq_self hk, measure_eq_self (by rwa [kind_normalForm])]

theorem equalInt_normalForm (t : Ty) (n : Int64) : t.normalForm.equalInt n = t.equalInt n := by
  cases t <;> rfl

theorem equalString_normalForm (t : Ty) (s : String) :
    t.normalForm.equalString s = t.equalString s := by
  cases t <;> rfl

theorem isConcrete_normalForm (t : Ty) : t.normalForm.isConcrete = t.isConcrete := by
  induction t using induction_on_parts with
  | step t ih =>
    have hall : ∀ ts : List Ty, (∀ u ∈ ts, u.normalForm.isConcrete = u.isConcrete) →
        (ts.map normalForm).all isConcrete = ts.all isConcrete := by
      intro ts hts
      rw [List.all_map, Bool.eq_iff_iff, List.all_eq_true, List.all_eq_true]
      refine forall₂_congr fun u hu => ?_
      rw [Function.comp, hts u hu]
    cases t with
    | datashape params name => simpa using hall params ih
    | tuple members => simpa using hall members ih
    | function params => simpa using hall params ih
    | option value => simpa using ih value List.mem_cons_self
    | record fields =>
      have hfields := hall (fields.map Prod.snd) ih
      rw [List.all_map, List.all_map, List.all_map] at hfields
      rw [normalForm_record, isConcrete_record, isConcrete_record,
        (sortByName_perm _).all_eq, List.all_map]
      exact hfields
    | _ => rfl

/-- Sorting the fields of a record moves the variables in them along. -/
theorem freeVariables_normalForm (t : Ty) :
    t.normalForm.freeVariables.Perm t.freeVariables := by
  induction t using induction_on_parts with
  | step t ih =>
    have hall : ∀ ts : List Ty, (∀ u ∈ ts, u.normalForm.freeVariables.Perm u.freeVariables) →
        ((ts.map normalForm).flatMap freeVariables).Perm (ts.flatMap freeVariables) := by
      intro ts hts
      rw [List.flatMap_map]
      exact List.Perm.flatMap_left ts hts
    cases t with
    | datashape params name => simpa using hall params ih
    | tuple members => simpa using hall members ih
    | function params => simpa using hall params ih
    | option value => simpa using ih value List.mem_cons_self
    | record fields =>
      rw [normalForm_record, freeVariables_record, freeVariables_record]
      refine ((sortByName_perm _).flatMap_right _).trans ?_
      rw [List.flatMap_map]
      exact List.Perm.flatMap_left fields fun f hf => ih f.2 (List.mem_map_of_mem hf)
    | _ => exact .refl _

/-! ## Equal dimensions and equal measures -/

/-- Equality as a relation. -/
def Equal (a b : Ty) : Prop := (a == b) = true

/-- Types without parts are equal to themselves, valid or not. -/
theorem equal_self (h : a.parts = []) : Equal a a := by
  change equal a a = true
  cases a with
  | units unit value => cases h
  | option value => cases h
  | datashape params name =>
    obtain rfl : params = [] := h
    simp [equal, equalAll]
  | record fields =>
    obtain rfl := List.map_eq_nil_iff.mp h
    simp [equal, equalFields]
  | tuple members =>
    obtain rfl : members = [] := h
    simp [equal, equalAll]
  | function params =>
    obtain rfl : params = [] := h
    simp [equal, equalAll]
  | _ => simp [equal]

theorem forall₂_equal {ts us : List Ty} (hts : ∀ t ∈ ts, WellFormed t)
    (hus : ∀ u ∈ us, WellFormed u) (h : ts.map normalForm = us.map normalForm) :
    List.Forall₂ Equal ts us :=
  equalAll_iff.mp ((equalAll_iff_map_eq fun t ht u hu => equal_iff (hts t ht) (hus u hu)).mpr h)

theorem Equal.shape (ha : WellFormed a) (hb : WellFormed b) (h : Equal a b) :
    List.Forall₂ Equal a.shape b.shape := by
  refine forall₂_equal (fun d => ha.of_mem_shape) (fun d => hb.of_mem_shape) ?_
  rw [← shape_normalForm, ← shape_normalForm, (equal_iff ha hb).mp h]

theorem Equal.measure (ha : WellFormed a) (hb : WellFormed b) (h : Equal a b) :
    Equal a.measure b.measure := by
  refine (equal_iff ha.measure hb.measure).mpr ?_
  rw [← measure_normalForm, ← measure_normalForm, (equal_iff ha hb).mp h]

theorem equal_datashape {ps qs : List Ty} (h : List.Forall₂ Equal ps qs)
    (name name' : Option String) : Equal (datashape ps name) (datashape qs name') := by
  rwa [Equal, beq_eq_equal, equal, equalAll_iff]

theorem equal_tuple {ts us : List Ty} (h : List.Forall₂ Equal ts us) :
    Equal (tuple ts) (tuple us) := by
  rwa [Equal, beq_eq_equal, equal, equalAll_iff]

theorem equal_function {ps qs : List Ty} (h : List.Forall₂ Equal ps qs) :
    Equal (function ps) (function qs) := by
  rwa [Equal, beq_eq_equal, equal, equalAll_iff]

theorem equal_option (h : Equal a b) : Equal (option a) (option b) := by
  rwa [Equal, beq_eq_equal, equal]

theorem equal_units (h : Equal a b) (unit : String) : Equal (units unit a) (units unit b) := by
  rw [Equal, beq_eq_equal, equal, beq_self_eq_true, Bool.true_and]
  exact h

theorem equal_shaped {ds es : List Ty} {m m' : Ty} (hdims : List.Forall₂ Equal ds es)
    (hmeasure : Equal m m') (name name' : Option String) :
    Equal (datashape (ds ++ [m]) name) (datashape (es ++ [m']) name') :=
  equal_datashape (List.rel_append hdims (.cons hmeasure .nil)) name name'

theorem equal_around {ds es : List Ty} {m m' : Ty} (hdims : List.Forall₂ Equal ds es)
    (hmeasure : Equal m m') : Equal (around ds m) (around es m') := by
  cases hdims with
  | nil => exact hmeasure
  | cons hd hds => exact equal_shaped (.cons hd hds) hmeasure none none

theorem isExtent_eq (t : Ty) : t.isExtent = (t.kind == .fixed || t.kind == .intConst) := by
  cases t <;> rfl

theorem forall₂_generalize {ds es : List Ty} (h : List.Forall₂ Equal ds es) (next : Nat) :
    List.Forall₂ Equal (generalize next ds) (generalize next es) := by
  induction h generalizing next with
  | nil => exact .nil
  | @cons d e ds es hde _ ih =>
    have hextent : d.isExtent = e.isExtent := by
      rw [isExtent_eq, isExtent_eq, kind_eq_of_equal hde]
    unfold generalize
    rw [hextent]
    split_ifs
    · exact .cons (equal_self rfl) (ih (next + 1))
    · exact .cons hde (ih next)

theorem Equal.signature (ha : WellFormed a) (hb : WellFormed b) (h : Equal a b) :
    Equal a.signature b.signature := by
  have hkind := kind_eq_of_equal h
  by_cases hk : a.kind = .datashape
  · obtain ⟨params, name, rfl⟩ := exists_eq_datashape hk
    obtain ⟨params', name', rfl⟩ := exists_eq_datashape (hkind.symm.trans hk)
    rw [signature_datashape ha.nodeValid, signature_datashape hb.nodeValid]
    exact equal_shaped (forall₂_generalize (h.shape ha hb) 0) (h.measure ha hb) none none
  · rwa [signature_eq_self hk, signature_eq_self (hkind ▸ hk)]

/-- Dropping dimensions either leaves equal types or asks for more dimensions than either
type has. -/
theorem Equal.subarray (ha : WellFormed a) (hb : WellFormed b) (h : Equal a b) (n : Nat) :
    (n ≤ a.shape.length ∧ ∃ u v, a.subarray n = .ok u ∧ b.subarray n = .ok v ∧ Equal u v) ∨
      (a.shape.length < n ∧ a.subarray n = .error (.outOfRange n a.shape.length a) ∧
        b.subarray n = .error (.outOfRange n a.shape.length b)) := by
  have hshape := h.shape ha hb
  have hlen := hshape.length_eq
  have hmeasure := h.measure ha hb
  by_cases hlt : a.shape.length < n
  · refine .inr ⟨hlt, subarray_of_lt hlt, ?_⟩
    rw [hlen] at hlt ⊢
    exact subarray_of_lt hlt
  · refine .inl ⟨Nat.not_lt.mp hlt, ?_⟩
    by_cases hzero : n = 0
    · subst hzero
      exact ⟨a, b, subarray_zero a, subarray_zero b, h⟩
    · refine ⟨_, _, subarray_of_ne_zero ha.nodeValid hzero (by omega),
        subarray_of_ne_zero hb.nodeValid hzero (by omega), ?_⟩
      exact equal_around (List.forall₂_drop n hshape) hmeasure

/-- Nothing that can be observed of the types tells them apart, and what is computed from
them is equal again. -/
structure Indistinct (a b : Ty) : Prop where
  kind : a.kind = b.kind
  position? : a.position? = b.position?
  fits : ∀ p, a.fits p = b.fits p
  isStandalone : a.isStandalone = b.isStandalone
  isConcrete : a.isConcrete = b.isConcrete
  equalInt : ∀ n, a.equalInt n = b.equalInt n
  equalString : ∀ s, a.equalString s = b.equalString s
  shape : List.Forall₂ Equal a.shape b.shape
  measure : Equal a.measure b.measure
  signature : Equal a.signature b.signature
  freeVariables : a.freeVariables.Perm b.freeVariables
  subarray : ∀ n,
    (n ≤ a.shape.length ∧ ∃ u v, a.subarray n = .ok u ∧ b.subarray n = .ok v ∧ Equal u v) ∨
      (a.shape.length < n ∧ a.subarray n = .error (.outOfRange n a.shape.length a) ∧
        b.subarray n = .error (.outOfRange n a.shape.length b))

theorem Equal.indistinct (ha : WellFormed a) (hb : WellFormed b) (h : Equal a b) :
    Indistinct a b := by
  have hkind := kind_eq_of_equal h
  have hform := (equal_iff ha hb).mp h
  constructor
  case kind => exact hkind
  case position? => exact congrArg Kind.position? hkind
  case fits => exact fun p => congrArg (Kind.fits · p) hkind
  case isStandalone => exact congrArg Kind.isStandalone hkind
  case isConcrete => rw [← isConcrete_normalForm a, hform, isConcrete_normalForm]
  case equalInt =>
    intro n
    rw [← equalInt_normalForm a, hform, equalInt_normalForm]
  case equalString =>
    intro s
    rw [← equalString_normalForm a, hform, equalString_normalForm]
  case shape => exact h.shape ha hb
  case measure => exact h.measure ha hb
  case signature => exact h.signature ha hb
  case freeVariables =>
    have hperm := (freeVariables_normalForm a).symm
    rw [hform] at hperm
    exact hperm.trans (freeVariables_normalForm b)
  case subarray => exact h.subarray ha hb

/-! ## Equal records -/

/-- Fields of the same name and of equal types. -/
structure SameField (f g : String × Ty) : Prop where
  name : f.1 = g.1
  type : Equal f.2 g.2

/-- The fields of equal records match one by one once they are put in the same order. -/
theorem exists_sameFields {fs gs : List (String × Ty)} (hfs : WellFormed (record fs))
    (hgs : WellFormed (record gs)) (h : Equal (record fs) (record gs)) :
    ∃ gs', List.Forall₂ SameField fs gs' ∧ gs'.Perm gs := by
  have hform := (equal_iff hfs hgs).mp h
  rw [normalForm_record, normalForm_record, record.injEq,
    sortByName_eq_iff (nodup_names_normalForm hfs.nodeValid.1)] at hform
  obtain ⟨gs', hmatch, hperm⟩ := exists_perm_forall₂ hform
  refine ⟨gs', forall₂_imp_mem hmatch fun f hf g hg heq => ?_, hperm⟩
  obtain ⟨hname, htype⟩ := Prod.mk.inj heq
  have hf2 := hfs.of_mem_parts (List.mem_map_of_mem hf)
  have hg2 := hgs.of_mem_parts (List.mem_map_of_mem (hperm.mem_iff.mp hg))
  exact ⟨hname, (equal_iff hf2 hg2).mpr htype⟩

/-- The fields are compared the other way round, so both records must be well formed. -/
theorem equal_record {fs gs : List (String × Ty)} (hfs : WellFormed (record fs))
    (hgs : WellFormed (record gs)) (h : List.Forall₂ SameField fs gs) :
    Equal (record fs) (record gs) := by
  rw [Equal, beq_eq_equal, equal, h.length_eq, beq_self_eq_true, Bool.true_and, equalFields_iff]
  intro f hf
  obtain ⟨g, hg, hname, htype⟩ := exists_of_mem_left h hf
  have hf2 := hfs.of_mem_parts (List.mem_map_of_mem hf)
  have hg2 := hgs.of_mem_parts (List.mem_map_of_mem hg)
  refine ⟨g.2, hname ▸ lookup_of_mem hgs.nodeValid.1 hg, ?_⟩
  rw [equal_comm hg2 hf2]
  exact htype

/-! ## Literals -/

/-- A type of which equality sees everything, and that stands for a plain value somewhere. -/
def isLiteral : Ty → Bool
  | intConst _ | strConst _ | fixed _ | typeVar _ => true
  | _ => false

theorem Equal.eq_of_isLiteral (hl : a.isLiteral = true) (h : Equal a b) : a = b := by
  have hk := kind_eq_of_equal h
  cases a with
  | intConst n | strConst s | fixed n | typeVar s =>
    cases b <;> cases hk
    rw [Equal, beq_eq_equal, equal, beq_iff_eq] at h
    rw [h]
  | _ => cases hl

/-- A computation that succeeds on literals only does not tell equal types apart. -/
theorem Equal.alike_of_isLiteral {ε α : Type} {f g : Ty → Except ε α} (h : Equal a b)
    (hf : ∀ t, t.isLiteral = false → ∃ e, f t = .error e)
    (hg : ∀ t, t.isLiteral = false → ∃ e, g t = .error e)
    (hfg : ∀ t, t.isLiteral = true → Alike Eq (f t) (g t)) : Alike Eq (f a) (g b) := by
  by_cases hl : a.isLiteral = true
  · obtain rfl := h.eq_of_isLiteral hl
    exact hfg a hl
  · have hb : b.isLiteral = false := by
      have hk := kind_eq_of_equal h
      cases b with
      | intConst n | strConst s | fixed n | typeVar s =>
        cases a <;> cases hk
        exact absurd rfl hl
      | _ => rfl
    obtain ⟨e, he⟩ := hf a (Bool.eq_false_iff.mpr hl)
    obtain ⟨e', he'⟩ := hg b hb
    rw [he, he']
    exact .error e e'

/-! ## Checked constructors -/

theorem map_kind_eq {ts us : List Ty} (h : List.Forall₂ Equal ts us) :
    ts.map kind = us.map kind :=
  forall₂_iff_map_eq.mp (h.imp fun _ _ => kind_eq_of_equal)

theorem forall_isStandalone_iff {ts us : List Ty} (h : List.Forall₂ Equal ts us) :
    (∀ t ∈ ts, t.isStandalone = true) ↔ ∀ u ∈ us, u.isStandalone = true := by
  have hkinds : ∀ vs : List Ty, (∀ v ∈ vs, v.isStandalone = true) ↔
      ∀ k ∈ vs.map kind, k.isStandalone = true := by
    intro vs
    rw [List.forall_mem_map]
    rfl
  rw [hkinds ts, hkinds us, map_kind_eq h]

theorem alike_makeDatashape {ps qs : List Ty} (h : List.Forall₂ Equal ps qs) :
    Alike Equal (makeDatashape ps) (makeDatashape qs) := by
  refine .of_ok_iff (fun _ => makeDatashape_eq_ok_iff) (fun _ => makeDatashape_eq_ok_iff) ?_ ?_
  · rw [nodeValid_datashape_iff, nodeValid_datashape_iff, map_kind_eq h]
  · intro _
    exact equal_datashape h none none

theorem alike_makeTuple {ts us : List Ty} (h : List.Forall₂ Equal ts us) :
    Alike Equal (makeTuple ts) (makeTuple us) := by
  refine .of_ok_iff (fun _ => makeTuple_eq_ok_iff) (fun _ => makeTuple_eq_ok_iff) ?_ ?_
  · exact forall_isStandalone_iff h
  · intro _
    exact equal_tuple h

theorem alike_makeFunction {ps qs : List Ty} (h : List.Forall₂ Equal ps qs) :
    Alike Equal (makeFunction ps) (makeFunction qs) := by
  refine .of_ok_iff (fun _ => makeFunction_eq_ok_iff) (fun _ => makeFunction_eq_ok_iff) ?_ ?_
  · have hlen := h.length_eq
    refine and_congr (not_congr ?_) (forall_isStandalone_iff h)
    rw [← List.length_eq_zero_iff, ← List.length_eq_zero_iff, hlen]
  · intro _
    exact equal_function h

theorem alike_makeOption (h : Equal a b) : Alike Equal (makeOption a) (makeOption b) := by
  refine .of_ok_iff (fun _ => makeOption_eq_ok_iff) (fun _ => makeOption_eq_ok_iff) ?_ ?_
  · rw [NodeValid, NodeValid, position?, position?, kind_eq_of_equal h]
  · intro _
    exact equal_option h

theorem alike_makeUnits {value value' : Option Ty} (h : Option.Rel Equal value value')
    (unit : String) : Alike Equal (makeUnits unit value) (makeUnits unit value') := by
  have hvalue : Equal (value.getD standardValue) (value'.getD standardValue) := by
    cases h with
    | none => exact equal_self rfl
    | some h => exact h
  refine .of_ok_iff (fun _ => makeUnits_eq_ok_iff) (fun _ => makeUnits_eq_ok_iff) ?_ ?_
  · rw [NodeValid, NodeValid, isStandalone, isStandalone, kind_eq_of_equal hvalue]
  · intro _
    exact equal_units hvalue unit

/-- Types that are equal if both are well formed. -/
def EqualIfWellFormed (a b : Ty) : Prop := WellFormed a → WellFormed b → Equal a b

theorem alike_makeRecord {fs gs : List (String × Ty)} (h : List.Forall₂ SameField fs gs) :
    Alike EqualIfWellFormed (makeRecord fs) (makeRecord gs) := by
  have hnames : fs.map Prod.fst = gs.map Prod.fst :=
    forall₂_iff_map_eq.mp (h.imp fun f g hfg => hfg.name)
  have htypes : List.Forall₂ Equal (fs.map Prod.snd) (gs.map Prod.snd) := by
    rw [List.forall₂_map_left_iff, List.forall₂_map_right_iff]
    exact h.imp fun f g hfg => hfg.type
  have hvalid : NodeValid (record fs) ↔ NodeValid (record gs) := by
    have hstandalone := forall_isStandalone_iff htypes
    rw [List.forall_mem_map, List.forall_mem_map] at hstandalone
    rw [NodeValid, NodeValid, hnames, hstandalone]
  refine .of_ok_iff (fun _ => makeRecord_eq_ok_iff) (fun _ => makeRecord_eq_ok_iff) hvalid ?_
  intro _ hfs hgs
  exact equal_record hfs hgs h

end Ty

end ShapeAlgebra
