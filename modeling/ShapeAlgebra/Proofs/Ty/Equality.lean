import Mathlib.Data.List.Forall2
import ShapeAlgebra.Proofs.Ty.Parts
import ShapeAlgebra.Ty.Equality

/-!
# Equality of types

What equality asks of lists and of fields, and two facts about whole types: a well-formed
type is equal to itself, and rewriting nodes in a way that equality does not see makes no
difference to it.
-/
namespace ShapeAlgebra.Ty

theorem beq_eq_equal (t u : Ty) : (t == u) = equal t u := rfl

theorem equalAll_iff {ts us : List Ty} :
    equalAll ts us = true ↔ List.Forall₂ (fun t u => equal t u = true) ts us := by
  induction ts generalizing us with
  | nil => cases us <;> simp [equalAll, List.forall₂_nil_left_iff]
  | cons t ts ih => cases us <;> simp [equalAll, ih, List.forall₂_nil_right_iff]

theorem equalNamesake_cons (name : String) (t : Ty) (g : String × Ty)
    (gs : List (String × Ty)) : equalNamesake name t (g :: gs) =
      if g.1 = name then equal g.2 t else equalNamesake name t gs := by
  rw [equalNamesake]

theorem equalFields_cons (f : String × Ty) (fs gs : List (String × Ty)) :
    equalFields (f :: fs) gs = (equalNamesake f.1 f.2 gs && equalFields fs gs) := by
  rw [equalFields]

theorem equalNamesake_iff {name : String} {t : Ty} {gs : List (String × Ty)} :
    equalNamesake name t gs = true ↔ ∃ u, gs.lookup name = some u ∧ equal u t = true := by
  induction gs with
  | nil => simp [equalNamesake]
  | cons g gs ih =>
    rw [equalNamesake_cons, List.lookup_cons]
    by_cases h : g.1 = name
    · simp [h]
    · simp [h, beq_false_of_ne (Ne.symm h), ih]

theorem equalFields_iff {fs gs : List (String × Ty)} :
    equalFields fs gs = true ↔
      ∀ f ∈ fs, ∃ u, gs.lookup f.1 = some u ∧ equal u f.2 = true := by
  induction fs with
  | nil => simp [equalFields]
  | cons f fs ih =>
    rw [equalFields_cons, Bool.and_eq_true, equalNamesake_iff, ih, List.forall_mem_cons]

/-- Among distinct names, looking up the name of an entry finds the entry. -/
theorem lookup_of_mem {fs : List (String × Ty)} (hd : (fs.map Prod.fst).Nodup)
    {f : String × Ty} (hf : f ∈ fs) : fs.lookup f.1 = some f.2 := by
  induction fs with
  | nil => simp at hf
  | cons g fs ih =>
    simp only [List.map_cons, List.nodup_cons] at hd
    rcases List.mem_cons.mp hf with rfl | hf
    · exact List.lookup_cons_self
    · have hne : f.1 ≠ g.1 := by
        intro h
        exact hd.1 (h ▸ List.mem_map_of_mem hf)
      rw [List.lookup_cons, beq_false_of_ne hne]
      exact ih hd.2 hf

theorem equal_refl {t : Ty} (h : WellFormed t) : equal t t = true := by
  induction t using induction_on_parts with
  | step t ih =>
    have hparts : ∀ u ∈ t.parts, equal u u = true :=
      fun u hu => ih u hu (h.of_mem_parts hu)
    have hall : ∀ ts : List Ty, (∀ u ∈ ts, equal u u = true) → equalAll ts ts = true :=
      fun ts hts => equalAll_iff.mpr (List.forall₂_same.mpr hts)
    cases t with
    | record fields =>
      have hd := h.nodeValid.1
      have hf : equalFields fields fields = true := by
        rw [equalFields_iff]
        intro f hf
        exact ⟨f.2, lookup_of_mem hd hf, hparts f.2 (List.mem_map_of_mem hf)⟩
      simp [equal, hf]
    | datashape params name => simpa [equal] using hall params hparts
    | tuple members => simpa [equal] using hall members hparts
    | function params => simpa [equal] using hall params hparts
    | units unit value => simpa [equal] using hparts value (by simp [parts])
    | option value => simpa [equal] using hparts value (by simp [parts])
    | _ => simp [equal]

/-- Types that make no difference to equality, on whichever side they stand. -/
structure Interchangeable (t u : Ty) : Prop where
  left : ∀ v, equal t v = equal u v
  right : ∀ v, equal v t = equal v u

theorem Interchangeable.trans {t u w : Ty} (htu : Interchangeable t u)
    (huw : Interchangeable u w) : Interchangeable t w where
  left v := (htu.left v).trans (huw.left v)
  right v := (htu.right v).trans (huw.right v)

section MapNodes

variable {f : Ty → Ty} {P : Ty → Prop}

theorem equalAll_map_left {ts : List Ty} (h : ∀ t ∈ ts, Interchangeable (f t) t)
    (us : List Ty) : equalAll (ts.map f) us = equalAll ts us := by
  induction ts generalizing us with
  | nil => rfl
  | cons t ts ih =>
    have ht := (h t List.mem_cons_self).left
    have hts := ih fun u hu => h u (List.mem_cons_of_mem t hu)
    cases us <;> simp [equalAll, ht, hts]

theorem equalAll_map_right {ts : List Ty} (h : ∀ t ∈ ts, Interchangeable (f t) t)
    (us : List Ty) : equalAll us (ts.map f) = equalAll us ts := by
  induction ts generalizing us with
  | nil => rfl
  | cons t ts ih =>
    have ht := (h t List.mem_cons_self).right
    have hts := ih fun u hu => h u (List.mem_cons_of_mem t hu)
    cases us <;> simp [equalAll, ht, hts]

theorem equalNamesake_congr {t u : Ty} (h : Interchangeable t u) (name : String)
    (gs : List (String × Ty)) : equalNamesake name t gs = equalNamesake name u gs := by
  induction gs with
  | nil => simp [equalNamesake]
  | cons g gs ih => rw [equalNamesake_cons, equalNamesake_cons, h.right, ih]

theorem equalNamesake_map {fs : List (String × Ty)}
    (h : ∀ g ∈ fs, Interchangeable (f g.2) g.2) (name : String) (t : Ty) :
    equalNamesake name t (fs.map fun g => (g.1, f g.2)) = equalNamesake name t fs := by
  induction fs with
  | nil => rfl
  | cons g fs ih =>
    have hg := (h g List.mem_cons_self).left
    have hfs := ih fun g' hg' => h g' (List.mem_cons_of_mem g hg')
    simp only [List.map_cons, equalNamesake_cons, hg, hfs]

theorem equalFields_map_left {fs : List (String × Ty)}
    (h : ∀ g ∈ fs, Interchangeable (f g.2) g.2) (gs : List (String × Ty)) :
    equalFields (fs.map fun g => (g.1, f g.2)) gs = equalFields fs gs := by
  induction fs with
  | nil => rfl
  | cons g fs ih =>
    have hg := equalNamesake_congr (h g List.mem_cons_self) g.1 gs
    have hfs := ih fun g' hg' => h g' (List.mem_cons_of_mem g hg')
    simp only [List.map_cons, equalFields_cons, hg, hfs]

theorem equalFields_map_right {fs : List (String × Ty)}
    (h : ∀ g ∈ fs, Interchangeable (f g.2) g.2) (gs : List (String × Ty)) :
    equalFields gs (fs.map fun g => (g.1, f g.2)) = equalFields gs fs := by
  induction gs with
  | nil => simp [equalFields]
  | cons g gs ih => rw [equalFields_cons, equalFields_cons, equalNamesake_map h, ih]

/-- Rewriting nodes that satisfy `P`, each into one that makes no difference to equality,
makes none either. `P` may ask for the kind of a node, or for the name of a scalar, so that
it is not lost when the parts of the node are rewritten. -/
theorem interchangeable_mapNodes
    (hP : ∀ u v, u.kind = v.kind → u.kind ≠ .scalar → P u → P v)
    (hf : ∀ u, P u → Interchangeable (f u) u) {t : Ty} (h : ∀ u ∈ t.nodes, P u) :
    Interchangeable (mapNodes f t) t := by
  induction t using induction_on_parts with
  | step t ih =>
    have hparts : ∀ u ∈ t.parts, Interchangeable (mapNodes f u) u :=
      fun u hu => ih u hu fun w hw => h w (mem_nodes_of_mem_parts hu hw)
    have ht := h t (self_mem_nodes t)
    -- the node around the rewritten parts is of the same kind, so it may be rewritten too
    have hnode : ∀ u, u.kind = t.kind → t.kind ≠ .scalar → Interchangeable (f u) u :=
      fun u hk hs => hf u (hP t u hk.symm hs ht)
    cases t with
    | units unit value | option value =>
      have hv := hparts value (by simp [parts])
      rw [mapNodes]
      refine .trans (hnode _ rfl (by simp [kind])) ⟨?_, ?_⟩
      all_goals
        intro v
        cases v <;> simp [equal, hv.left, hv.right]
    | datashape params name | tuple params | function params =>
      have hall : ∀ u ∈ params, Interchangeable (mapNodes f u) u := hparts
      rw [mapNodes]
      refine .trans (hnode _ rfl (by simp [kind])) ⟨?_, ?_⟩
      all_goals
        intro v
        cases v <;> simp [equal, equalAll_map_left hall, equalAll_map_right hall]
    | record fields =>
      have hfs : ∀ g ∈ fields, Interchangeable (mapNodes f g.2) g.2 :=
        fun g hg => hparts g.2 (List.mem_map_of_mem hg)
      rw [mapNodes]
      refine .trans (hnode _ rfl (by simp [kind])) ⟨?_, ?_⟩
      all_goals
        intro v
        cases v <;> simp [equal, equalFields_map_left hfs, equalFields_map_right hfs]
    | _ => exact hf _ ht

end MapNodes

/-- The node without the size and the alignment of a scalar. -/
def unsizedNode : Ty → Ty
  | scalar s => scalar ⟨s.name, 0, 0⟩
  | t => t

/-- The type without the sizes and alignments of its scalars. Everything else is kept, the
order of the fields of its records included. -/
def unsized : Ty → Ty := mapNodes unsizedNode

@[simp] theorem unsized_scalar (s : Scalar) : (scalar s).unsized = scalar ⟨s.name, 0, 0⟩ := rfl

@[simp] theorem unsized_units (unit : String) (value : Ty) :
    (units unit value).unsized = units unit value.unsized := rfl

@[simp] theorem unsized_option (value : Ty) : (option value).unsized = option value.unsized := rfl

@[simp] theorem unsized_datashape (params : List Ty) (name : Option String) :
    (datashape params name).unsized = datashape (params.map unsized) name := by
  simp [unsized, mapNodes, unsizedNode]

@[simp] theorem unsized_tuple (members : List Ty) :
    (tuple members).unsized = tuple (members.map unsized) := by
  simp [unsized, mapNodes, unsizedNode]

@[simp] theorem unsized_function (params : List Ty) :
    (function params).unsized = function (params.map unsized) := by
  simp [unsized, mapNodes, unsizedNode]

@[simp] theorem unsized_record (fields : List (String × Ty)) :
    (record fields).unsized = record (fields.map fun f => (f.1, f.2.unsized)) := by
  simp [unsized, mapNodes, unsizedNode]

theorem interchangeable_unsized (t : Ty) : Interchangeable t.unsized t := by
  refine interchangeable_mapNodes (P := fun _ => True) (by simp) ?_ (by simp)
  intro u _
  cases u with
  | scalar s =>
    constructor
    all_goals
      intro v
      cases v <;> simp [unsizedNode, equal]
  | _ => exact ⟨fun _ => rfl, fun _ => rfl⟩

/-- Types that differ in nothing but the sizes of scalars are equal. -/
theorem equal_of_unsized_eq {a b : Ty} (hb : WellFormed b) (h : a.unsized = b.unsized) :
    equal a b = true :=
  calc
    equal a b = equal a.unsized b := ((interchangeable_unsized a).left b).symm
    _ = equal b.unsized b := by rw [h]
    _ = equal b b := (interchangeable_unsized b).left b
    _ = true := equal_refl hb

end ShapeAlgebra.Ty
