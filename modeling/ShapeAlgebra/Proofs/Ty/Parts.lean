import Mathlib.Algebra.BigOperators.Group.List.Basic
import Mathlib.Data.List.Basic
import ShapeAlgebra.Ty.WellFormed

/-!
# Parts of types

The types that a node holds, and induction over them. Well-formedness is a condition on
every node of a type, and a function on single nodes extends to whole types.
-/
namespace ShapeAlgebra.Ty

/-- The types held by the outermost node, from left to right. -/
def parts : Ty → List Ty
  | units _ value => [value]
  | datashape params _ => params
  | record fields => fields.map Prod.snd
  | tuple members => members
  | function params => params
  | option value => [value]
  | _ => []

theorem sizeOf_lt_of_mem_parts {t u : Ty} (h : u ∈ t.parts) : sizeOf u < sizeOf t := by
  cases t <;> simp only [parts, List.mem_cons, List.not_mem_nil, or_false] at h
  case units | option => subst h; simp +arith
  case datashape params name =>
    have := List.sizeOf_lt_of_mem h
    simp +arith only [datashape.sizeOf_spec]
    omega
  case tuple | function =>
    have := List.sizeOf_lt_of_mem h
    simp +arith
    omega
  case record fields =>
    obtain ⟨⟨name, v⟩, hf, rfl⟩ := List.mem_map.mp h
    have := List.sizeOf_lt_of_mem hf
    simp only [Prod.mk.sizeOf_spec] at this
    simp +arith
    omega

/-- Induction: what passes from the parts of a type to the type holds of every type. -/
@[elab_as_elim]
theorem induction_on_parts {motive : Ty → Prop} (t : Ty)
    (step : ∀ t, (∀ u ∈ t.parts, motive u) → motive t) : motive t :=
  step t fun u _ => induction_on_parts u step
termination_by sizeOf t
decreasing_by exact sizeOf_lt_of_mem_parts ‹_›

mutual
/-- The nodes of a type: the type itself, then the nodes of its parts. -/
def nodes : Ty → List Ty
  | units unit value => units unit value :: nodes value
  | datashape params name => datashape params name :: nodesAll params
  | record fields => record fields :: nodesFields fields
  | tuple members => tuple members :: nodesAll members
  | function params => function params :: nodesAll params
  | option value => option value :: nodes value
  | t => [t]

def nodesAll : List Ty → List Ty
  | [] => []
  | t :: ts => nodes t ++ nodesAll ts

def nodesFields : List (String × Ty) → List Ty
  | [] => []
  | (_, t) :: fs => nodes t ++ nodesFields fs
end

theorem nodesAll_eq_flatMap (ts : List Ty) : nodesAll ts = ts.flatMap nodes := by
  induction ts with
  | nil => rfl
  | cons t ts ih => simp [nodesAll, ih]

theorem nodesFields_eq_flatMap (fs : List (String × Ty)) :
    nodesFields fs = (fs.map Prod.snd).flatMap nodes := by
  induction fs with
  | nil => rfl
  | cons f fs ih => simp [nodesFields, ih]

theorem nodes_eq (t : Ty) : t.nodes = t :: t.parts.flatMap nodes := by
  cases t <;> simp [nodes, parts, nodesAll_eq_flatMap, nodesFields_eq_flatMap]

theorem self_mem_nodes (t : Ty) : t ∈ t.nodes := by
  rw [nodes_eq]
  exact List.mem_cons_self

theorem mem_nodes_of_mem_parts {t p u : Ty} (hp : p ∈ t.parts) (hu : u ∈ p.nodes) :
    u ∈ t.nodes := by
  rw [nodes_eq]
  exact List.mem_cons_of_mem t (List.mem_flatMap.mpr ⟨p, hp, hu⟩)

theorem forall_nodes_iff {P : Ty → Prop} {t : Ty} :
    (∀ u ∈ t.nodes, P u) ↔ P t ∧ ∀ p ∈ t.parts, ∀ u ∈ p.nodes, P u := by
  rw [nodes_eq, List.forall_mem_cons]
  simp only [List.mem_flatMap, forall_exists_index, and_imp]
  exact and_congr_right fun _ => ⟨fun h p hp u hu => h u p hp hu, fun h u p hp hu => h p hp u hu⟩

theorem length_nodes_lt {t p : Ty} (hp : p ∈ t.parts) : p.nodes.length < t.nodes.length := by
  rw [nodes_eq t, List.length_cons, List.flatMap_def]
  exact Nat.lt_succ_of_le (List.sublist_flatten_of_mem (List.mem_map_of_mem hp)).length_le

theorem length_parts_lt (t : Ty) : t.parts.length < t.nodes.length := by
  rw [nodes_eq t, List.length_cons, List.length_flatMap]
  have hpos : ∀ n ∈ t.parts.map fun p => p.nodes.length, 1 ≤ n := by
    intro n hn
    obtain ⟨p, -, rfl⟩ := List.mem_map.mp hn
    exact List.length_pos_of_mem (self_mem_nodes p)
  have hsum := List.length_le_sum_of_one_le _ hpos
  rw [List.length_map] at hsum
  exact Nat.lt_succ_of_le hsum

theorem wellFormed_iff {t : Ty} :
    WellFormed t ↔ NodeValid t ∧ ∀ u ∈ t.parts, WellFormed u := by
  cases t
  case record fields =>
    simp only [WellFormed, parts, fieldsWellFormed_iff, List.forall_mem_map]
  all_goals simp [WellFormed, parts, allWellFormed_iff]

theorem wellFormed_iff_nodes {t : Ty} : WellFormed t ↔ ∀ u ∈ t.nodes, NodeValid u := by
  induction t using induction_on_parts with
  | step t ih =>
    rw [wellFormed_iff, forall_nodes_iff]
    exact and_congr_right fun _ => forall₂_congr ih

theorem WellFormed.nodeValid {t : Ty} (h : WellFormed t) : NodeValid t :=
  (wellFormed_iff.mp h).1

theorem WellFormed.of_mem_parts {t u : Ty} (h : WellFormed t) (hu : u ∈ t.parts) :
    WellFormed u :=
  (wellFormed_iff.mp h).2 u hu

theorem exists_eq_datashape {t : Ty} (h : t.kind = .datashape) :
    ∃ params name, t = datashape params name := by
  cases t with
  | datashape params name => exact ⟨params, name, rfl⟩
  | _ => cases h

theorem exists_eq_function {t : Ty} (h : t.kind = .function) : ∃ params, t = function params := by
  cases t with
  | function params => exact ⟨params, rfl⟩
  | _ => cases h

theorem params_ne_nil {params : List Ty} {name : Option String}
    (h : NodeValid (datashape params name)) : params ≠ [] :=
  List.ne_nil_of_length_pos (Nat.lt_of_lt_of_le Nat.two_pos h.1)

theorem params_eq_shape_append_measure {params : List Ty} (h : params ≠ [])
    (name : Option String) :
    params = (datashape params name).shape ++ [(datashape params name).measure] := by
  rw [shape, measure, List.getLastD_eq_getLast?, List.getLast?_eq_some_getLast h,
    Option.getD_some, List.dropLast_concat_getLast h]

@[simp] theorem shape_shaped (dims : List Ty) (m : Ty) (name : Option String) :
    (datashape (dims ++ [m]) name).shape = dims := by
  simp [shape]

@[simp] theorem measure_shaped (dims : List Ty) (m : Ty) (name : Option String) :
    (datashape (dims ++ [m]) name).measure = m := by
  simp [measure]

theorem nodeValid_shaped_iff {dims : List Ty} {m : Ty} {name : Option String} :
    NodeValid (datashape (dims ++ [m]) name) ↔
      dims ≠ [] ∧ m.fits .measure = true ∧ ∀ d ∈ dims, d.fits .dimension = true := by
  rw [NodeValid, shape_shaped, measure_shaped, List.length_append, List.length_singleton,
    Nat.succ_le_succ_iff, Nat.one_le_iff_ne_zero, Ne, List.length_eq_zero_iff]

theorem nodeValid_name_iff {params : List Ty} (name name' : Option String) :
    NodeValid (datashape params name) ↔ NodeValid (datashape params name') := by
  rcases List.eq_nil_or_concat' params with rfl | ⟨dims, m, rfl⟩
  · simp [NodeValid]
  · rw [nodeValid_shaped_iff, nodeValid_shaped_iff]

theorem measure_mem_params {params : List Ty} (h : params ≠ []) (name : Option String) :
    (datashape params name).measure ∈ params := by
  have hmem : (datashape params name).measure ∈
      (datashape params name).shape ++ [(datashape params name).measure] :=
    List.mem_append_right _ List.mem_cons_self
  rwa [← params_eq_shape_append_measure h name] at hmem

theorem mem_shape_or_eq_measure {params : List Ty} {p : Ty} (hp : p ∈ params)
    (name : Option String) :
    p ∈ (datashape params name).shape ∨ p = (datashape params name).measure := by
  have heq := params_eq_shape_append_measure (List.ne_nil_of_mem hp) name
  rwa [heq, List.mem_append, List.mem_singleton] at hp

theorem shape_eq_nil {t : Ty} (h : t.kind ≠ .datashape) : t.shape = [] := by
  cases t with
  | datashape params name => exact absurd rfl h
  | _ => rfl

theorem measure_eq_self {t : Ty} (h : t.kind ≠ .datashape) : t.measure = t := by
  cases t with
  | datashape params name => exact absurd rfl h
  | _ => rfl

theorem kind_ne_datashape_of_fits {t : Ty} {p : Position} (h : t.fits p = true) :
    t.kind ≠ .datashape := by
  intro hk
  rw [fits, hk] at h
  cases p <;> exact absurd h (by decide)

theorem kind_ne_function_of_fits {t : Ty} {p : Position} (h : t.fits p = true) :
    t.kind ≠ .function := by
  intro hk
  rw [fits, hk] at h
  cases p <;> exact absurd h (by decide)

theorem fits_of_position? {t : Ty} {p : Position} (h : t.position? = some p) :
    t.fits p = true := by
  rw [fits, Kind.fits, ← position?, h, beq_self_eq_true, Bool.true_or]

theorem kind_ne_function_of_isStandalone {t : Ty} (h : t.isStandalone = true) :
    t.kind ≠ .function := by
  intro hk
  rw [isStandalone, hk] at h
  exact absurd h (by decide)

/-- Functions stand in no position, so no node holds one. -/
theorem kind_ne_function_of_mem_parts {t p : Ty} (h : NodeValid t) (hp : p ∈ t.parts) :
    p.kind ≠ .function := by
  cases t with
  | units unit value =>
    obtain rfl := List.mem_singleton.mp hp
    exact kind_ne_function_of_isStandalone h
  | datashape params name =>
    rcases mem_shape_or_eq_measure hp name with hp | rfl
    · exact kind_ne_function_of_fits (h.2.2 p hp)
    · exact kind_ne_function_of_fits h.2.1
  | record fields =>
    obtain ⟨f, hf, rfl⟩ := List.mem_map.mp hp
    exact kind_ne_function_of_isStandalone (h.2 f hf)
  | tuple members => exact kind_ne_function_of_isStandalone (h p hp)
  | function params => exact kind_ne_function_of_isStandalone (h.2 p hp)
  | option value =>
    obtain rfl := List.mem_singleton.mp hp
    exact kind_ne_function_of_fits (fits_of_position? h)
  | _ => cases hp

/-- A function occurs at the root of a well-formed type only. -/
theorem WellFormed.kind_ne_function {t p u : Ty} (h : WellFormed t) (hp : p ∈ t.parts)
    (hu : u ∈ p.nodes) : u.kind ≠ .function := by
  induction p using induction_on_parts generalizing t with
  | step p ih =>
    rw [nodes_eq, List.mem_cons, List.mem_flatMap] at hu
    rcases hu with rfl | ⟨q, hq, hu⟩
    · exact kind_ne_function_of_mem_parts h.nodeValid hp
    · exact ih q hq (h.of_mem_parts hp) hq hu

instance : DecidablePred NodeValid
  | units _ value => inferInstanceAs (Decidable (value.isStandalone = true))
  | ellipsis (some symbol) => inferInstanceAs (Decidable (Symbol.isValid symbol = true))
  | typeVar symbol => inferInstanceAs (Decidable (Symbol.isValid symbol = true))
  | implements symbol _ => inferInstanceAs (Decidable (Symbol.isValid symbol = true))
  | datashape params name =>
    inferInstanceAs (Decidable (2 ≤ params.length ∧
      (datashape params name).measure.fits .measure = true ∧
      ∀ d ∈ (datashape params name).shape, d.fits .dimension = true))
  | record fields =>
    inferInstanceAs (Decidable ((fields.map Prod.fst).Nodup ∧
      ∀ f ∈ fields, f.2.isStandalone = true))
  | tuple members => inferInstanceAs (Decidable (∀ t ∈ members, t.isStandalone = true))
  | function [] => .isFalse fun h => h.1 rfl
  | function (p :: ps) =>
    decidable_of_iff (∀ t ∈ p :: ps, t.isStandalone = true)
      ⟨fun h => ⟨List.cons_ne_nil p ps, h⟩, fun h => h.2⟩
  | option value => inferInstanceAs (Decidable (value.position? = some .measure))
  | null | date | time _ | datetime _ | bytes | string _ _ | scalar _ | json | intConst _
  | strConst _ | fixed _ | var | ellipsis none => .isTrue trivial

instance : DecidablePred WellFormed := fun _ => decidable_of_iff _ wellFormed_iff_nodes.symm

mutual
/-- The type with every node replaced, the nodes held by a node before the node itself. -/
def mapNodes (f : Ty → Ty) : Ty → Ty
  | units unit value => f (units unit (mapNodes f value))
  | datashape params name => f (datashape (mapNodesAll f params) name)
  | record fields => f (record (mapNodesFields f fields))
  | tuple members => f (tuple (mapNodesAll f members))
  | function params => f (function (mapNodesAll f params))
  | option value => f (option (mapNodes f value))
  | t => f t

def mapNodesAll (f : Ty → Ty) : List Ty → List Ty
  | [] => []
  | t :: ts => mapNodes f t :: mapNodesAll f ts

def mapNodesFields (f : Ty → Ty) : List (String × Ty) → List (String × Ty)
  | [] => []
  | (name, t) :: fs => (name, mapNodes f t) :: mapNodesFields f fs
end

@[simp] theorem mapNodesAll_eq_map (f : Ty → Ty) (ts : List Ty) :
    mapNodesAll f ts = ts.map (mapNodes f) := by
  induction ts with
  | nil => rfl
  | cons t ts ih => simp [mapNodesAll, ih]

@[simp] theorem mapNodesFields_eq_map (f : Ty → Ty) (fs : List (String × Ty)) :
    mapNodesFields f fs = fs.map fun g => (g.1, mapNodes f g.2) := by
  induction fs with
  | nil => rfl
  | cons g fs ih => simp [mapNodesFields, ih]

end ShapeAlgebra.Ty
