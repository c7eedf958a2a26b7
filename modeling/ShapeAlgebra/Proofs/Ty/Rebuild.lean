import ShapeAlgebra.Proofs.Ty.Make

/-!
# Types built again from their leaves up

Building a type again passes each node through its checked constructor, parts before the
node that holds them and parts from left to right. A well-formed type comes back as it is.
Otherwise the first node, in that order, that is not valid gives the reason.
-/
namespace ShapeAlgebra.Ty

/-- The node through its checked constructor, with its parts as they are. -/
def remake : Ty → Except Violation Ty
  | units unit value => makeUnits unit (some value)
  | ellipsis (some symbol) => (Symbol.parse symbol).map fun s => ellipsis (some s)
  | typeVar symbol => makeTypeVar symbol
  | datashape params name => makeNamed name params
  | record fields => makeRecord fields
  | tuple members => makeTuple members
  | function params => makeFunction params
  | option value => makeOption value
  | implements symbol typeset => (Symbol.parse symbol).map fun s => implements s typeset
  | t => .ok t

theorem map_symbolParse_eq_ok_iff {symbol : String} {f : String → Ty} {t : Ty} :
    (Symbol.parse symbol).map f = .ok t ↔ Symbol.isValid symbol = true ∧ t = f symbol := by
  rw [map_eq_ok_iff]
  simp only [symbolParse_eq_ok_iff]
  constructor
  · rintro ⟨s, ⟨hvalid, rfl⟩, rfl⟩
    exact ⟨hvalid, rfl⟩
  · rintro ⟨hvalid, rfl⟩
    exact ⟨symbol, ⟨hvalid, rfl⟩, rfl⟩

theorem remake_eq_ok_iff {t u : Ty} : t.remake = .ok u ↔ NodeValid t ∧ u = t := by
  cases t with
  | units unit value => exact makeUnits_eq_ok_iff
  | ellipsis symbol =>
    cases symbol with
    | none => simp [remake, NodeValid, eq_comm]
    | some symbol => exact map_symbolParse_eq_ok_iff
  | typeVar symbol => exact map_symbolParse_eq_ok_iff
  | implements symbol typeset => exact map_symbolParse_eq_ok_iff
  | datashape params name => exact makeNamed_eq_ok_iff
  | record fields => exact makeRecord_eq_ok_iff
  | tuple members => exact makeTuple_eq_ok_iff
  | function params => exact makeFunction_eq_ok_iff
  | option value => exact makeOption_eq_ok_iff
  | _ => simp [remake, NodeValid, eq_comm]

theorem map_const_remake (t : Ty) : (t.remake.map fun _ => t) = t.remake := by
  cases h : t.remake with
  | error cause => rfl
  | ok u =>
    obtain ⟨-, rfl⟩ := remake_eq_ok_iff.mp h
    rfl

mutual
/-- The type built again, its parts first. -/
def rebuild : Ty → Except Violation Ty
  | units unit value => do (units unit (← rebuild value)).remake
  | datashape params name => do (datashape (← rebuildAll params) name).remake
  | record fields => do (record (← rebuildFields fields)).remake
  | tuple members => do (tuple (← rebuildAll members)).remake
  | function params => do (function (← rebuildAll params)).remake
  | option value => do (option (← rebuild value)).remake
  | t => t.remake

def rebuildAll : List Ty → Except Violation (List Ty)
  | [] => .ok []
  | t :: ts => do
    let t ← rebuild t
    let ts ← rebuildAll ts
    return t :: ts

def rebuildFields : List (String × Ty) → Except Violation (List (String × Ty))
  | [] => .ok []
  | (name, t) :: fs => do
    let t ← rebuild t
    let fs ← rebuildFields fs
    return (name, t) :: fs
end

mutual
/-- The nodes of a type in the order they are built: those of its parts from left to right,
then the type itself. -/
def postorder : Ty → List Ty
  | units unit value => postorder value ++ [units unit value]
  | datashape params name => postorderAll params ++ [datashape params name]
  | record fields => postorderFields fields ++ [record fields]
  | tuple members => postorderAll members ++ [tuple members]
  | function params => postorderAll params ++ [function params]
  | option value => postorder value ++ [option value]
  | t => [t]

def postorderAll : List Ty → List Ty
  | [] => []
  | t :: ts => postorder t ++ postorderAll ts

def postorderFields : List (String × Ty) → List Ty
  | [] => []
  | (_, t) :: fs => postorder t ++ postorderFields fs
end

theorem postorderAll_eq_flatMap (ts : List Ty) : postorderAll ts = ts.flatMap postorder := by
  induction ts with
  | nil => rfl
  | cons t ts ih => simp [postorderAll, ih]

theorem postorderFields_eq_flatMap (fs : List (String × Ty)) :
    postorderFields fs = (fs.map Prod.snd).flatMap postorder := by
  induction fs with
  | nil => rfl
  | cons f fs ih => simp [postorderFields, ih]

theorem postorder_eq (t : Ty) : t.postorder = t.parts.flatMap postorder ++ [t] := by
  cases t <;> simp [postorder, parts, postorderAll_eq_flatMap, postorderFields_eq_flatMap]

theorem wellFormed_iff_postorder {t : Ty} : WellFormed t ↔ ∀ u ∈ t.postorder, NodeValid u := by
  induction t using induction_on_parts with
  | step t ih =>
    rw [wellFormed_iff, postorder_eq, List.forall_mem_append, List.forall_mem_singleton,
      and_comm, List.forall_mem_flatMap]
    exact and_congr_left fun _ => forall₂_congr ih

/-! ## What comes back -/

theorem remake_eq_mapM (t : Ty) : t.remake = ([t].mapM remake).map fun _ => t := by
  rw [← map_const_remake, List.mapM_cons, List.mapM_nil]
  cases t.remake <;> rfl

/-- Parts first, then the node: the checks of both, one after the other. -/
theorem remake_after {α : Type} (ns : List Ty) (node : α → Ty) (a : α) :
    (((ns.mapM remake).map fun _ => a) >>= fun a => (node a).remake) =
      ((ns ++ [node a]).mapM remake).map fun _ => node a := by
  rw [List.mapM_append]
  cases ns.mapM remake with
  | error cause => rfl
  | ok made =>
    refine (remake_eq_mapM (node a)).trans ?_
    cases [node a].mapM remake <;> rfl

theorem rebuildAll_eq {ts : List Ty}
    (h : ∀ t ∈ ts, t.rebuild = (t.postorder.mapM remake).map fun _ => t) :
    rebuildAll ts = ((ts.flatMap postorder).mapM remake).map fun _ => ts := by
  induction ts with
  | nil => rfl
  | cons t ts ih =>
    rw [rebuildAll, h t List.mem_cons_self, ih fun u hu => h u (List.mem_cons_of_mem t hu),
      List.flatMap_cons, List.mapM_append]
    cases t.postorder.mapM remake with
    | error cause => rfl
    | ok made => cases (ts.flatMap postorder).mapM remake <;> rfl

theorem rebuildFields_eq {fs : List (String × Ty)}
    (h : ∀ t ∈ fs.map Prod.snd, t.rebuild = (t.postorder.mapM remake).map fun _ => t) :
    rebuildFields fs =
      (((fs.map Prod.snd).flatMap postorder).mapM remake).map fun _ => fs := by
  induction fs with
  | nil => rfl
  | cons f fs ih =>
    obtain ⟨name, t⟩ := f
    rw [List.map_cons, List.forall_mem_cons] at h
    rw [rebuildFields, h.1, ih h.2, List.map_cons, List.flatMap_cons, List.mapM_append]
    cases t.postorder.mapM remake with
    | error cause => rfl
    | ok made => cases ((fs.map Prod.snd).flatMap postorder).mapM remake <;> rfl

/-- Building again checks the nodes in order and changes none. -/
theorem rebuild_eq (t : Ty) : t.rebuild = (t.postorder.mapM remake).map fun _ => t := by
  induction t using induction_on_parts with
  | step t ih =>
    rw [postorder_eq]
    cases t with
    | units unit value =>
      rw [rebuild, ih value List.mem_cons_self, parts, List.flatMap_singleton]
      exact remake_after _ (units unit) value
    | option value =>
      rw [rebuild, ih value List.mem_cons_self, parts, List.flatMap_singleton]
      exact remake_after _ option value
    | datashape params name =>
      rw [parts] at ih
      rw [rebuild, rebuildAll_eq ih]
      exact remake_after _ (datashape · name) params
    | tuple members =>
      rw [parts] at ih
      rw [rebuild, rebuildAll_eq ih]
      exact remake_after _ tuple members
    | function params =>
      rw [parts] at ih
      rw [rebuild, rebuildAll_eq ih]
      exact remake_after _ function params
    | record fields =>
      rw [rebuild, rebuildFields_eq ih]
      exact remake_after _ record fields
    | _ => exact remake_eq_mapM _

theorem rebuild_of_wellFormed {t : Ty} (h : WellFormed t) : t.rebuild = .ok t := by
  have hnodes : t.postorder.mapM remake = .ok t.postorder := by
    rw [mapM_eq_ok_iff, List.forall₂_same]
    exact fun u hu => remake_eq_ok_iff.mpr ⟨wellFormed_iff_postorder.mp h u hu, rfl⟩
  rw [rebuild_eq, hnodes]
  rfl

/-- A type that is not well formed has a first node that is not valid. Building again stops
there, for the reason its constructor gives. -/
theorem rebuild_of_not_wellFormed {t : Ty} (h : ¬ WellFormed t) :
    ∃ before u after cause, t.postorder = before ++ u :: after ∧
      (∀ v ∈ before, NodeValid v) ∧ ¬ NodeValid u ∧ u.remake = .error cause ∧
        t.rebuild = .error cause := by
  rw [rebuild_eq]
  cases hnodes : t.postorder.mapM remake with
  | ok made =>
    refine absurd (wellFormed_iff_postorder.mpr fun u hu => ?_) h
    obtain ⟨v, hv⟩ := exists_ok_of_mem hnodes hu
    exact (remake_eq_ok_iff.mp hv).1
  | error cause =>
    obtain ⟨before, u, after, hsplit, hbefore, hu⟩ := exists_first_error hnodes
    refine ⟨before, u, after, cause, hsplit, fun v hv => ?_, fun hvalid => ?_, hu, rfl⟩
    · obtain ⟨w, hw⟩ := hbefore v hv
      exact (remake_eq_ok_iff.mp hw).1
    · rw [remake_eq_ok_iff.mpr ⟨hvalid, rfl⟩] at hu
      cases hu

end ShapeAlgebra.Ty
