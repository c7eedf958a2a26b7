import ShapeAlgebra.Ty.Make

/-!
# Dropping and generalising dimensions
-/
namespace ShapeAlgebra.Ty

/-- The type without its `leading` first dimensions. Without any dimension left, it is the
measure; a datashape that loses dimensions loses its name. -/
def subarray (t : Ty) (leading : Nat) : Except Violation Ty :=
  let available := t.shape.length
  if available < leading then .error (.outOfRange leading available t)
  else if leading = 0 then .ok t
  else if leading = available then .ok t.measure
  else makeShaped (t.shape.drop leading) t.measure

def isExtent : Ty → Bool
  | fixed _ => true
  | intConst _ => true
  | _ => false

/-- Numbered variables, from `next` on, in place of the dimensions of known extent. -/
def generalize (next : Nat) : List Ty → List Ty
  | [] => []
  | d :: ds =>
    if d.isExtent then typeVar (Symbol.numbered next) :: generalize (next + 1) ds
    else d :: generalize next ds

/-- The signature form: a datashape with variables for its known extents. Variables fit
wherever the extents did, so only a datashape that is itself ill-formed is kept. -/
def signature : Ty → Ty
  | datashape params name =>
    let t := datashape params name
    match makeShaped (generalize 0 t.shape) t.measure with
    | .ok u => u
    | .error _ => t
  | t => t

end ShapeAlgebra.Ty
