import ShapeAlgebra.Proofs.Parameter.Build
import ShapeAlgebra.Parameter.Basic
import ShapeAlgebra.Ty.Traversal

/-!
# What a visit meets

A visitor that handles nothing but type variables and varying dimensions is told of the
leaves of a type, one after the other. The leaves are found by going through the parameters
of the type and of the types they hold.
-/
namespace ShapeAlgebra

/-- What a visitor is told of: a type variable, or a dimension that varies. -/
inductive Leaf where
  | typeVar (symbol : String)
  | var
deriving DecidableEq

namespace Leaf

def symbol? : Leaf → Option String
  | typeVar symbol => some symbol
  | var => none

/-- The state after a leaf, with one update for type variables and one for dimensions. -/
def update {σ : Type} (typeVar : String → σ → σ) (var : σ → σ) (s : σ) : Leaf → σ
  | .typeVar symbol => typeVar symbol s
  | .var => var s

end Leaf

namespace Ty

/-! ## Types in parameters -/

/-- The types held by the parameters of a type, from left to right. -/
def held (t : Ty) : List Ty := t.parameters.flatMap Parameter.held

theorem flatMap_held_map_type (ts : List Ty) :
    (ts.map Parameter.type).flatMap Parameter.held = ts := by
  induction ts with
  | nil => rfl
  | cons t ts ih =>
    rw [List.map_cons, List.flatMap_cons, ih]
    rfl

/-- The parameters hold the parts of a type; only ellipses and constraints have their variable
besides. -/
theorem held_eq_parts {t : Ty} (he : t.kind ≠ .ellipsis) (hi : t.kind ≠ .implements) :
    t.held = t.parts := by
  cases t with
  | ellipsis symbol => exact absurd rfl he
  | implements symbol typeset => exact absurd rfl hi
  | time zone | datetime zone => cases zone <;> rfl
  | string length encoding => cases length <;> rfl
  | datashape params name => exact flatMap_held_map_type params
  | function params => exact flatMap_held_map_type params
  | record fields => exact List.append_nil _
  | tuple members => exact List.append_nil _
  | _ => rfl

theorem sizeOf_lt_of_mem_held {t u : Ty} (h : u ∈ t.held) : sizeOf u < sizeOf t := by
  cases t with
  | ellipsis symbol =>
    cases symbol with
    | none => cases h
    | some symbol =>
      obtain rfl := List.mem_singleton.mp h
      simp
  | implements symbol typeset =>
    obtain rfl := List.mem_singleton.mp h
    cases typeset
    simp +arith
  | _ =>
    rw [held_eq_parts (by rintro ⟨⟩) (by rintro ⟨⟩)] at h
    exact sizeOf_lt_of_mem_parts h

/-- A visit goes on to the types in the parameters. -/
def descends (t : Ty) : Bool := t.kind == .ellipsis || t.kind.isComposite

/-- The leaves of a type, from left to right: those of the types in its parameters if it is an
ellipsis or a composite. Any other type is a leaf itself or has none. -/
def leaves : Ty → List Leaf
  | typeVar symbol => [.typeVar symbol]
  | var => [.var]
  | t => if t.descends then t.held.attach.flatMap fun u => leaves u.1 else []
termination_by t => sizeOf t
decreasing_by exact sizeOf_lt_of_mem_held u.2

@[simp] theorem leaves_typeVar (symbol : String) :
    (typeVar symbol).leaves = [.typeVar symbol] := by
  rw [leaves]

@[simp] theorem leaves_var : var.leaves = [.var] := by
  rw [leaves]

theorem leaves_of_descends {t : Ty} (h : t.descends = true) :
    t.leaves = t.held.flatMap leaves := by
  have hattach : (t.held.attach.flatMap fun u => leaves u.1) = t.held.flatMap leaves := by
    rw [← List.flatMap_map Subtype.val leaves, List.attach_map_subtype_val]
  cases t with
  | typeVar symbol => cases h
  | var => cases h
  | _ =>
    rw [← hattach, leaves, if_pos h]
    all_goals simp

theorem leaves_eq_nil {t : Ty} (hv : t.kind ≠ .typeVar) (hd : t.kind ≠ .var)
    (h : t.descends = false) : t.leaves = [] := by
  cases t with
  | typeVar symbol => exact absurd rfl hv
  | var => exact absurd rfl hd
  | _ =>
    rw [leaves, if_neg (Bool.eq_false_iff.mp h)]
    all_goals simp

@[simp] theorem leaves_datashape (params : List Ty) (name : Option String) :
    (datashape params name).leaves = params.flatMap leaves := by
  rw [leaves_of_descends rfl, held_eq_parts (by rintro ⟨⟩) (by rintro ⟨⟩), parts]

@[simp] theorem leaves_record (fields : List (String × Ty)) :
    (record fields).leaves = (fields.map Prod.snd).flatMap leaves := by
  rw [leaves_of_descends rfl, held_eq_parts (by rintro ⟨⟩) (by rintro ⟨⟩), parts]

@[simp] theorem leaves_tuple (members : List Ty) :
    (tuple members).leaves = members.flatMap leaves := by
  rw [leaves_of_descends rfl, held_eq_parts (by rintro ⟨⟩) (by rintro ⟨⟩), parts]

@[simp] theorem leaves_function (params : List Ty) :
    (function params).leaves = params.flatMap leaves := by
  rw [leaves_of_descends rfl, held_eq_parts (by rintro ⟨⟩) (by rintro ⟨⟩), parts]

@[simp] theorem leaves_option (value : Ty) : (option value).leaves = value.leaves := by
  rw [leaves_of_descends rfl, held_eq_parts (by rintro ⟨⟩) (by rintro ⟨⟩), parts,
    List.flatMap_singleton]

theorem leaves_ellipsis (symbol : Option String) :
    (ellipsis symbol).leaves = symbol.toList.map .typeVar := by
  rw [leaves_of_descends rfl]
  cases symbol with
  | none => rfl
  | some symbol => exact (List.flatMap_singleton _ _).trans (leaves_typeVar symbol)

theorem leaves_implements (symbol typeset : String) :
    (implements symbol typeset).leaves = [.typeVar symbol] := by
  rw [leaves_of_descends rfl]
  exact (List.flatMap_singleton _ _).trans (leaves_typeVar symbol)

end Ty

/-! ## Visits -/

namespace Visitor

variable {σ : Type}

theorem visitFields_eq_visitAll (v : Visitor σ) (fs : List (String × Ty)) (s : σ) :
    v.visitFields fs s = v.visitAll (fs.map Prod.snd) s := by
  induction fs generalizing s with
  | nil => rw [List.map_nil, visitFields, visitAll]
  | cons f fs ih => rw [visitFields, ih, List.map_cons, visitAll]

/-- The visitor that handles leaves only. -/
def onLeaves (typeVar : String → σ → σ) (var : σ → σ) : Visitor σ where
  typeVar := typeVar
  var := var

variable (typeVar : String → σ → σ) (var : σ → σ)

variable {typeVar var} in
theorem visitAll_eq_foldl {ts : List Ty}
    (h : ∀ t ∈ ts, ∀ s,
      (onLeaves typeVar var).visit t s = t.leaves.foldl (Leaf.update typeVar var) s) (s : σ) :
    (onLeaves typeVar var).visitAll ts s =
      (ts.flatMap Ty.leaves).foldl (Leaf.update typeVar var) s := by
  induction ts generalizing s with
  | nil => rfl
  | cons t ts ih =>
    obtain ⟨ht, hts⟩ := List.forall_mem_cons.mp h
    rw [visitAll, ht, ih hts, List.flatMap_cons, List.foldl_append]

/-- The state after a visit is the state after the leaves in turn. -/
theorem visit_eq_foldl (t : Ty) (s : σ) :
    (onLeaves typeVar var).visit t s = t.leaves.foldl (Leaf.update typeVar var) s := by
  induction t using Ty.induction_on_parts generalizing s with
  | step t ih =>
    cases t with
    | typeVar symbol =>
      rw [Ty.leaves_typeVar]
      rfl
    | var =>
      rw [Ty.leaves_var]
      rfl
    | ellipsis symbol =>
      rw [Ty.leaves_ellipsis]
      cases symbol <;> rfl
    | implements symbol typeset =>
      rw [Ty.leaves_implements]
      rfl
    | datashape params name =>
      rw [Ty.leaves_datashape]
      exact visitAll_eq_foldl ih s
    | tuple members =>
      rw [Ty.leaves_tuple]
      exact visitAll_eq_foldl ih s
    | function params =>
      rw [Ty.leaves_function]
      exact visitAll_eq_foldl ih s
    | record fields =>
      rw [Ty.leaves_record]
      change visitFields _ fields s = _
      rw [visitFields_eq_visitAll]
      exact visitAll_eq_foldl ih s
    | option value =>
      rw [Ty.leaves_option]
      exact ih value List.mem_cons_self s
    | _ =>
      rw [Ty.leaves_eq_nil (by rintro ⟨⟩) (by rintro ⟨⟩) rfl]
      rfl

end Visitor

namespace Ty

theorem foldl_update_append (leaves : List Leaf) (found : List String) :
    leaves.foldl (Leaf.update (fun symbol found => found ++ [symbol]) id) found =
      found ++ leaves.filterMap Leaf.symbol? := by
  induction leaves generalizing found with
  | nil => exact (List.append_nil found).symm
  | cons leaf leaves ih =>
    rw [List.foldl_cons, ih]
    cases leaf with
    | typeVar symbol => exact List.append_assoc found [symbol] _
    | var => rfl

theorem freeVariables_eq_filterMap (t : Ty) :
    t.freeVariables = t.leaves.filterMap Leaf.symbol? := by
  have hvisit := Visitor.visit_eq_foldl (fun symbol found => found ++ [symbol]) id t []
  exact hvisit.trans (foldl_update_append t.leaves [])

/-- Whatever a visitor does at type variables and at varying dimensions, if it handles
nothing else, its state after a type is the one that its updates leave after the leaves of
the type, from left to right. So the free variables of a type are the type variables among
its leaves, repetitions included. -/
theorem visit_leaves (t : Ty) :
    (∀ (σ : Type) (onTypeVar : String → σ → σ) (onVar : σ → σ) (s : σ),
      Visitor.visit { typeVar := onTypeVar, var := onVar } t s =
        t.leaves.foldl (Leaf.update onTypeVar onVar) s) ∧
      t.freeVariables = t.leaves.filterMap Leaf.symbol? := by
  constructor
  · intro σ onTypeVar onVar s
    exact Visitor.visit_eq_foldl onTypeVar onVar t s
  · exact freeVariables_eq_filterMap t

end Ty

end ShapeAlgebra
