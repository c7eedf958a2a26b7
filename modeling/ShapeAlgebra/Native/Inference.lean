import ShapeAlgebra.Native.Conversion

/-!
# Types of values

The type of a native value is the one it describes itself by, or else follows from what
sort of value it is.
-/
namespace ShapeAlgebra.Native

inductive ValueSort where
  | array (form : ArrayForm)
  | bool
  | int
  | float
  | complex
  | str
  | date
  | time
  | datetime
  | other

/-- A native value, as far as its type depends on it. -/
structure Value where
  /-- The type the value describes itself by. -/
  described : Option Ty
  sort : ValueSort

def ValueSort.toType (r : Registry) : ValueSort → Except ConversionError Ty
  | array a => a.toType r
  | bool => .ok (.scalar .bool)
  | int => .ok (.scalar .int32)
  | float => .ok (.scalar .float64)
  | complex => .ok (.scalar .complexFloat64)
  | str => .ok (.string none .standard)
  | date => .ok .date
  | time => .ok (.time none)
  | datetime => .ok (.datetime none)
  | other => .ok (.scalar .object)

/-- The type of a value; its own description comes first. -/
def Value.inferType (r : Registry) (v : Value) : Except ConversionError Ty :=
  match v.described with
  | some t => .ok t
  | none => v.sort.toType r

end ShapeAlgebra.Native
