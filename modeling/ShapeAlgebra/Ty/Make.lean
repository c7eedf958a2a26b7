import ShapeAlgebra.Violation
import ShapeAlgebra.Word

/-!
# Checked constructors

Each constructor reports the first condition that its arguments do not meet.
-/
namespace ShapeAlgebra

def Encoding.parse (spelling : String) : Except Violation Encoding :=
  match ofAlias? spelling with
  | some encoding => .ok encoding
  | none => .error (.unsupportedEncoding spelling)

/-- A symbol of a type variable, written by hand or numbered. -/
def Symbol.parse (symbol : String) : Except Violation String :=
  if isValid symbol then .ok symbol else .error (.typeVarSymbol symbol)

namespace Ty

/-- A type variable written by hand. -/
def makeWritten (symbol : String) : Except Violation Ty :=
  if Symbol.isWritten symbol then .ok (typeVar symbol) else .error (.typeVarSymbol symbol)

def makeTypeVar (symbol : String) : Except Violation Ty :=
  (Symbol.parse symbol).map typeVar

def makeFixed (extent : Int64) : Except Violation Ty :=
  match Word.unsigned? extent.toInt with
  | some n => .ok (fixed n)
  | none => .error (.negativeDimension extent)

/-- A string measure, in the standard encoding unless an alias names another. -/
def makeString (length : Option UInt64) : (spelling : Option String) → Except Violation Ty
  | none => .ok (string length .standard)
  | some spelling => (Encoding.parse spelling).map (string length)

/-- Units, counted in the standard value type unless another is given. -/
def makeUnits (unit : String) (value : Option Ty) : Except Violation Ty :=
  let v := value.getD standardValue
  if v.isStandalone then .ok (units unit v)
  else .error (.invalidParameter .units "tp" (.notStandalone v))

/-- Finds the first type that fits no place before the last, counting from `index`. -/
def checkDimensions (index : Nat) : List Ty → Except Violation Unit
  | [] => .ok ()
  | d :: ds =>
    if d.fits .dimension then checkDimensions (index + 1) ds
    else .error (.notDimension index d)

/-- A datashape without a name. The measure is checked before the dimensions. -/
def makeDatashape (params : List Ty) : Except Violation Ty :=
  let t := datashape params none
  if params.length < 2 then .error (.arity .datashape (.atLeast 2) params.length)
  else if !t.measure.fits .measure then .error (.notMeasure .datashape t.measure)
  else (checkDimensions 0 t.shape).map fun _ => t

def makeShaped (dims : List Ty) (measure : Ty) : Except Violation Ty :=
  makeDatashape (dims ++ [measure])

/-- A datashape with a display name, if one is given. -/
def makeNamed (name : Option String) (params : List Ty) : Except Violation Ty :=
  (makeDatashape params).map fun _ => datashape params name

/-- Finds the first field whose name is taken or whose type is not standalone. -/
def checkFields (taken : List String) : List (String × Ty) → Except Violation Unit
  | [] => .ok ()
  | (name, t) :: fs =>
    if taken.contains name then .error (.duplicateField name)
    else if !t.isStandalone then .error (.notMeasure .record t)
    else checkFields (name :: taken) fs

def makeRecord (fields : List (String × Ty)) : Except Violation Ty :=
  (checkFields [] fields).map fun _ => record fields

def checkStandalone (owner : Kind) : List Ty → Except Violation Unit
  | [] => .ok ()
  | t :: ts =>
    if t.isStandalone then checkStandalone owner ts else .error (.notMeasure owner t)

def makeTuple (members : List Ty) : Except Violation Ty :=
  (checkStandalone .tuple members).map fun _ => tuple members

/-- A function; its last parameter is the result. -/
def makeFunction (params : List Ty) : Except Violation Ty :=
  if params.isEmpty then .error (.arity .function (.atLeast 1) 0)
  else (checkStandalone .function params).map fun _ => function params

/-- An optional measure. Types that merely fit the place of a measure are refused. -/
def makeOption (value : Ty) : Except Violation Ty :=
  if value.position? == some .measure then .ok (option value)
  else .error (.notMeasure .option value)

end Ty

end ShapeAlgebra
