import ShapeAlgebra.Ty.Basic

/-!
# Well-formed types

The conditions under which a tree is a type: every node finds the parts it needs in the
positions they fit.
-/
namespace ShapeAlgebra.Ty

/-- The conditions of one node on its immediate parts. -/
def NodeValid : Ty → Prop
  | units _ value => value.isStandalone
  | ellipsis (some symbol) => Symbol.isValid symbol
  | typeVar symbol => Symbol.isValid symbol
  | implements symbol _ => Symbol.isValid symbol
  | datashape params name =>
    2 ≤ params.length ∧ (datashape params name).measure.fits .measure ∧
      ∀ d ∈ (datashape params name).shape, d.fits .dimension
  | record fields => (fields.map Prod.fst).Nodup ∧ ∀ f ∈ fields, f.2.isStandalone
  | tuple members => ∀ t ∈ members, t.isStandalone
  | function params => params ≠ [] ∧ ∀ t ∈ params, t.isStandalone
  | option value => value.position? = some .measure
  | _ => True

mutual
/-- Every node of the type is valid. -/
def WellFormed : Ty → Prop
  | units unit value => NodeValid (units unit value) ∧ WellFormed value
  | datashape params name => NodeValid (datashape params name) ∧ AllWellFormed params
  | record fields => NodeValid (record fields) ∧ FieldsWellFormed fields
  | tuple members => NodeValid (tuple members) ∧ AllWellFormed members
  | function params => NodeValid (function params) ∧ AllWellFormed params
  | option value => NodeValid (option value) ∧ WellFormed value
  | t => NodeValid t

def AllWellFormed : List Ty → Prop
  | [] => True
  | t :: ts => WellFormed t ∧ AllWellFormed ts

def FieldsWellFormed : List (String × Ty) → Prop
  | [] => True
  | (_, t) :: fs => WellFormed t ∧ FieldsWellFormed fs
end

theorem allWellFormed_iff {ts : List Ty} : AllWellFormed ts ↔ ∀ t ∈ ts, WellFormed t := by
  induction ts with
  | nil => simp [AllWellFormed]
  | cons t ts ih => simp [AllWellFormed, ih]

theorem fieldsWellFormed_iff {fs : List (String × Ty)} :
    FieldsWellFormed fs ↔ ∀ f ∈ fs, WellFormed f.2 := by
  induction fs with
  | nil => simp [FieldsWellFormed]
  | cons f fs ih => simp [FieldsWellFormed, ih]

end ShapeAlgebra.Ty
