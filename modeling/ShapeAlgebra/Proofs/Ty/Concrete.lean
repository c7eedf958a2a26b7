import ShapeAlgebra.Proofs.Ty.Traversal

/-!
# What a concrete type is free of

The search for free variables and the search for open places go through the same parts of a
type. Each finds something exactly if some node on its way gives it something to find, so the
two can be compared node by node: a place is open where a variable is, where a dimension
varies, and at an ellipsis, which the search for variables passes if it has no symbol.
-/
namespace ShapeAlgebra.Ty

variable {t u : Ty}

/-! ## Occurrences -/

/-- The type `u` occurs in another where it is searched for: at the root, or in a parameter of
a datashape, the type of a field, a member of a tuple, a parameter of a function or the value
of an option. The value type of units is not searched. -/
inductive Occurs (u : Ty) : Ty → Prop
  | root : Occurs u u
  | inDatashape {params : List Ty} {name : Option String} {p : Ty} :
      p ∈ params → Occurs u p → Occurs u (datashape params name)
  | inRecord {fields : List (String × Ty)} {f : String × Ty} :
      f ∈ fields → Occurs u f.2 → Occurs u (record fields)
  | inTuple {members : List Ty} {m : Ty} :
      m ∈ members → Occurs u m → Occurs u (tuple members)
  | inFunction {params : List Ty} {p : Ty} :
      p ∈ params → Occurs u p → Occurs u (function params)
  | inOption {value : Ty} : Occurs u value → Occurs u (option value)

/-- The parts of a type in which a search goes on. -/
def searched : Ty → List Ty
  | units _ _ => []
  | t => t.parts

theorem mem_parts_of_mem_searched (h : u ∈ t.searched) : u ∈ t.parts := by
  cases t with
  | units unit value => cases h
  | _ => exact h

theorem occurs_iff : Occurs u t ↔ u = t ∨ ∃ p ∈ t.searched, Occurs u p := by
  constructor
  · intro h
    cases h with
    | root => exact .inl rfl
    | inDatashape hp hu => exact .inr ⟨_, hp, hu⟩
    | inRecord hf hu => exact .inr ⟨_, List.mem_map_of_mem hf, hu⟩
    | inTuple hm hu => exact .inr ⟨_, hm, hu⟩
    | inFunction hp hu => exact .inr ⟨_, hp, hu⟩
    | inOption hu => exact .inr ⟨_, List.mem_cons_self, hu⟩
  · rintro (rfl | ⟨p, hp, hu⟩)
    · exact .root
    cases t with
    | datashape params name => exact .inDatashape hp hu
    | record fields =>
      obtain ⟨f, hf, rfl⟩ := List.mem_map.mp hp
      exact .inRecord hf hu
    | tuple members => exact .inTuple hp hu
    | function params => exact .inFunction hp hu
    | option value =>
      obtain rfl := List.mem_singleton.mp hp
      exact .inOption hu
    | _ => cases hp

theorem forall_occurs_iff {P : Ty → Prop} :
    (∀ u, Occurs u t → P u) ↔ P t ∧ ∀ p ∈ t.searched, ∀ u, Occurs u p → P u := by
  constructor
  · intro h
    refine ⟨h t .root, ?_⟩
    intro p hp u hu
    exact h u (occurs_iff.mpr (.inr ⟨p, hp, hu⟩))
  · rintro ⟨ht, hparts⟩ u hu
    rcases occurs_iff.mp hu with rfl | ⟨p, hp, hu⟩
    · exact ht
    · exact hparts p hp u hu

/-- What a node passes on to the parts searched under it is decided by all that occurs. -/
theorem iff_forall_occurs {P Q : Ty → Prop} (h : ∀ t, Q t ↔ P t ∧ ∀ p ∈ t.searched, Q p)
    (t : Ty) : Q t ↔ ∀ u, Occurs u t → P u := by
  induction t using induction_on_parts with
  | step t ih =>
    rw [h, forall_occurs_iff]
    apply and_congr_right
    intro _
    exact forall₂_congr fun p hp => ih p (mem_parts_of_mem_searched hp)

/-! ## Nodes -/

/-- The node leaves a type or an extent open, whatever its parts are. -/
def isOpen : Ty → Bool
  | typeVar _ | var | ellipsis _ | implements _ _ => true
  | _ => false

/-- The symbol of the type variable that the node is, is bound to or constrains. -/
def ownSymbol : Ty → Option String
  | typeVar symbol => some symbol
  | ellipsis symbol => symbol
  | implements symbol _ => some symbol
  | _ => none

theorem isConcrete_eq (t : Ty) : t.isConcrete = (!t.isOpen && t.searched.all isConcrete) := by
  cases t with
  | datashape | record | tuple | function | option =>
    simp [isOpen, searched, parts, Function.comp_def]
  | _ => rfl

theorem freeVariables_eq (t : Ty) :
    t.freeVariables = t.ownSymbol.toList ++ t.searched.flatMap freeVariables := by
  cases t with
  | datashape | record | tuple | function | option =>
    simp [ownSymbol, searched, parts, List.flatMap_map]
  | ellipsis symbol => cases symbol <;> rfl
  | _ => rfl

theorem isOpen_eq_false_iff :
    t.isOpen = false ↔ t.ownSymbol = none ∧ t ≠ var ∧ ∀ symbol, t ≠ ellipsis symbol := by
  cases t <;> simp [isOpen, ownSymbol]

/-! ## Whole types -/

theorem isConcrete_iff_forall_occurs (t : Ty) :
    t.isConcrete = true ↔ ∀ u, Occurs u t → u.isOpen = false := by
  have hnode : ∀ t : Ty, t.isConcrete = true ↔
      t.isOpen = false ∧ ∀ p ∈ t.searched, p.isConcrete = true := by
    intro t
    rw [isConcrete_eq, Bool.and_eq_true, Bool.not_eq_true', List.all_eq_true]
  exact iff_forall_occurs hnode t

theorem freeVariables_eq_nil_iff (t : Ty) :
    t.freeVariables = [] ↔ ∀ u, Occurs u t → u.ownSymbol = none := by
  have hnode : ∀ t : Ty, t.freeVariables = [] ↔
      t.ownSymbol = none ∧ ∀ p ∈ t.searched, p.freeVariables = [] := by
    intro t
    rw [freeVariables_eq, List.append_eq_nil_iff, Option.toList_eq_nil_iff,
      List.flatMap_eq_nil_iff]
  exact iff_forall_occurs hnode t

/-- A type is concrete exactly if it has no free variables, and neither a varying dimension
nor an ellipsis occurs in it, bound to a variable or not. -/
theorem isConcrete_iff_closed (t : Ty) :
    t.isConcrete = true ↔
      t.freeVariables = [] ∧ ∀ u, Occurs u t → u ≠ var ∧ ∀ symbol, u ≠ ellipsis symbol := by
  rw [isConcrete_iff_forall_occurs, freeVariables_eq_nil_iff]
  simp only [isOpen_eq_false_iff]
  constructor
  · intro h
    exact ⟨fun u hu => (h u hu).1, fun u hu => (h u hu).2⟩
  · rintro ⟨hsymbol, hnode⟩ u hu
    exact ⟨hsymbol u hu, hnode u hu⟩

-- A variable below units is not searched for; an ellipsis without a symbol is no variable.
example : (units "s" (typeVar "T")).isConcrete = true := rfl
example : (datashape [ellipsis none, json] none).isConcrete = false ∧
    (datashape [ellipsis none, json] none).freeVariables = [] := ⟨rfl, rfl⟩

end ShapeAlgebra.Ty
