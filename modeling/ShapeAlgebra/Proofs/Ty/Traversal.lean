import ShapeAlgebra.Proofs.Ty.Leaves

/-!
# Concrete types and free variables

A visit for open extents and types can only take back the answer it starts from, so a type
with parts is concrete when its visited parts are. The free variables of a type are found
among its leaves, and none of them has a symbol that is not valid.
-/
namespace ShapeAlgebra.Ty

/-! ## Concrete types -/

/-- The visitor that answers whether a type is concrete. -/
def concreteness : Visitor Bool where
  typeVar := fun _ _ => false
  var := fun _ => false
  ellipsis := some fun _ _ => false

theorem visitAll_concreteness {ts : List Ty}
    (h : ∀ t ∈ ts, ∀ b, concreteness.visit t b = (b && t.isConcrete)) (b : Bool) :
    concreteness.visitAll ts b = (b && ts.all isConcrete) := by
  induction ts generalizing b with
  | nil => simp [Visitor.visitAll]
  | cons t ts ih =>
    rw [Visitor.visitAll, h t List.mem_cons_self, ih fun u hu => h u (List.mem_cons_of_mem t hu),
      List.all_cons, Bool.and_assoc]

/-- Visiting a type keeps the answer if the type is concrete, and denies otherwise. -/
theorem visit_concreteness (t : Ty) (b : Bool) :
    concreteness.visit t b = (b && t.isConcrete) := by
  change _ = (b && concreteness.visit t true)
  induction t using induction_on_parts generalizing b with
  | step t ih =>
    cases t with
    | datashape params name | tuple members | function params =>
      rw [parts] at ih
      change concreteness.visitAll _ b = (b && concreteness.visitAll _ true)
      rw [visitAll_concreteness ih, visitAll_concreteness ih, Bool.true_and]
    | record fields =>
      rw [parts] at ih
      change concreteness.visitFields _ b = (b && concreteness.visitFields _ true)
      rw [Visitor.visitFields_eq_visitAll, Visitor.visitFields_eq_visitAll,
        visitAll_concreteness ih, visitAll_concreteness ih, Bool.true_and]
    | option value => exact ih value List.mem_cons_self b
    | _ => simp [Visitor.visit, concreteness]

@[simp] theorem isConcrete_datashape (params : List Ty) (name : Option String) :
    (datashape params name).isConcrete = params.all isConcrete :=
  (visitAll_concreteness (fun t _ => visit_concreteness t) true).trans (Bool.true_and _)

@[simp] theorem isConcrete_record (fields : List (String × Ty)) :
    (record fields).isConcrete = fields.all fun f => f.2.isConcrete := by
  change concreteness.visitFields fields true = _
  rw [Visitor.visitFields_eq_visitAll, visitAll_concreteness (fun t _ => visit_concreteness t),
    Bool.true_and, List.all_map]
  rfl

@[simp] theorem isConcrete_tuple (members : List Ty) :
    (tuple members).isConcrete = members.all isConcrete :=
  (visitAll_concreteness (fun t _ => visit_concreteness t) true).trans (Bool.true_and _)

@[simp] theorem isConcrete_function (params : List Ty) :
    (function params).isConcrete = params.all isConcrete :=
  (visitAll_concreteness (fun t _ => visit_concreteness t) true).trans (Bool.true_and _)

@[simp] theorem isConcrete_option (value : Ty) : (option value).isConcrete = value.isConcrete := rfl

theorem isConcrete_eq_shape_and_measure {t : Ty} (h : NodeValid t) :
    t.isConcrete = (t.shape.all isConcrete && t.measure.isConcrete) := by
  cases t with
  | datashape params name =>
    rw [isConcrete_datashape]
    conv_lhs => rw [params_eq_shape_append_measure (params_ne_nil h) name]
    rw [List.all_append, List.all_cons, List.all_nil, Bool.and_true]
  | _ => exact (Bool.true_and _).symm

/-! ## Free variables -/

theorem filterMap_flatMap_leaves (ts : List Ty) :
    (ts.flatMap leaves).filterMap Leaf.symbol? = ts.flatMap freeVariables := by
  rw [List.filterMap_flatMap]
  simp only [← freeVariables_eq_filterMap]

@[simp] theorem freeVariables_datashape (params : List Ty) (name : Option String) :
    (datashape params name).freeVariables = params.flatMap freeVariables := by
  rw [freeVariables_eq_filterMap, leaves_datashape, filterMap_flatMap_leaves]

@[simp] theorem freeVariables_tuple (members : List Ty) :
    (tuple members).freeVariables = members.flatMap freeVariables := by
  rw [freeVariables_eq_filterMap, leaves_tuple, filterMap_flatMap_leaves]

@[simp] theorem freeVariables_function (params : List Ty) :
    (function params).freeVariables = params.flatMap freeVariables := by
  rw [freeVariables_eq_filterMap, leaves_function, filterMap_flatMap_leaves]

@[simp] theorem freeVariables_record (fields : List (String × Ty)) :
    (record fields).freeVariables = fields.flatMap fun f => f.2.freeVariables := by
  rw [freeVariables_eq_filterMap, leaves_record, filterMap_flatMap_leaves, List.flatMap_map]

@[simp] theorem freeVariables_option (value : Ty) :
    (option value).freeVariables = value.freeVariables := rfl

/-- Every type variable met in a well-formed type has a valid symbol. -/
theorem WellFormed.isValid_of_mem_leaves {t : Ty} (h : WellFormed t) {symbol : String}
    (hs : .typeVar symbol ∈ t.leaves) : Symbol.isValid symbol = true := by
  induction t using induction_on_parts with
  | step t ih =>
    have hparts : .typeVar symbol ∈ t.parts.flatMap leaves → Symbol.isValid symbol = true := by
      intro hmem
      obtain ⟨p, hp, hmem⟩ := List.mem_flatMap.mp hmem
      exact ih p hp (h.of_mem_parts hp) hmem
    cases t with
    | typeVar symbol' =>
      rw [leaves_typeVar, List.mem_singleton] at hs
      exact Leaf.typeVar.inj hs ▸ h
    | implements symbol' typeset =>
      rw [leaves_implements, List.mem_singleton] at hs
      exact Leaf.typeVar.inj hs ▸ h
    | ellipsis symbol' =>
      rw [leaves_ellipsis] at hs
      cases symbol' with
      | none => cases hs
      | some symbol' => exact Leaf.typeVar.inj (List.mem_singleton.mp hs) ▸ h
    | var =>
      rw [leaves_var, List.mem_singleton] at hs
      cases hs
    | datashape params name => exact hparts (leaves_datashape params name ▸ hs)
    | tuple members => exact hparts (leaves_tuple members ▸ hs)
    | function params => exact hparts (leaves_function params ▸ hs)
    | record fields => exact hparts (leaves_record fields ▸ hs)
    | option value =>
      rw [leaves_option] at hs
      exact ih value List.mem_cons_self (h.of_mem_parts List.mem_cons_self) hs
    | _ =>
      rw [leaves_eq_nil (by rintro ⟨⟩) (by rintro ⟨⟩) rfl] at hs
      cases hs

theorem WellFormed.isValid_of_mem_freeVariables {t : Ty} (h : WellFormed t) {symbol : String}
    (hs : symbol ∈ t.freeVariables) : Symbol.isValid symbol = true := by
  rw [freeVariables_eq_filterMap, List.mem_filterMap] at hs
  obtain ⟨leaf, hmem, hsymbol⟩ := hs
  cases leaf with
  | typeVar symbol' => exact h.isValid_of_mem_leaves (Option.some.inj hsymbol ▸ hmem)
  | var => cases hsymbol

end ShapeAlgebra.Ty
