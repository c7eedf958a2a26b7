import ShapeAlgebra.Text.Literal
import ShapeAlgebra.Ty.Expression

/-!
# Violations

Why a type cannot be built, or not be taken apart as asked, and the message that says so.
-/
namespace ShapeAlgebra

inductive Wanted where
  | atLeast (count : Nat)
  | fewer
deriving DecidableEq, Repr

def Wanted.text : Wanted → String
  | atLeast count => toString count ++ " or more"
  | fewer => "fewer"

inductive Expected where
  | integer
  | optionalInteger
  | string
  | optionalString
  | type
  | optionalType
  | typeVariable
  | typeList
  | fieldList
deriving DecidableEq, Repr

def Expected.text : Expected → String
  | integer => "an integer"
  | optionalInteger => "an integer or None"
  | string => "a string"
  | optionalString => "a string or None"
  | type => "a type"
  | optionalType => "a type or None"
  | typeVariable => "a type variable"
  | typeList => "a type list"
  | fieldList => "a field list"

inductive Fault where
  | mismatch (expected : Expected) (found : Parameter)
  | missing (expected : Expected)
  | outOfRange (value : Int)
  | negative
  | notStandalone (found : Ty)

def Fault.text : Fault → String
  | mismatch expected found => "expected " ++ expected.text ++ ", got " ++ found.sort
  | missing expected => expected.text ++ " is required"
  | outOfRange value => toString value ++ " is out of range"
  | negative => "must be non-negative"
  | notStandalone found => "must be a datashape type, not " ++ found.expression

/-- A condition on types that is not met. -/
inductive Violation where
  /-- A type in a place for a measure or a standalone type. -/
  | notMeasure (owner : Kind) (found : Ty)
  /-- A type before the last place of a datashape. -/
  | notDimension (index : Nat) (found : Ty)
  | arity (owner : Kind) (wanted : Wanted) (found : Nat)
  | invalidParameter (owner : Kind) (label : String) (fault : Fault)
  | negativeDimension (value : Int64)
  | typeVarSymbol (symbol : String)
  | duplicateField (name : String)
  | unsupportedEncoding (spelling : String)
  /-- More leading dimensions were to be dropped than there are. -/
  | outOfRange (leading : Nat) (available : Nat) (type : Ty)

def Violation.message : Violation → String
  | notMeasure owner found =>
    "only a measure can appear in the last position of a " ++ owner.name ++ ", not " ++
      found.expression
  | notDimension index found =>
    "only dimensions can appear before the last position of a datashape, not " ++
      found.expression ++ " (position " ++ toString index ++ ")"
  | arity owner wanted found =>
    owner.name ++ " takes " ++ wanted.text ++ " parameters, got " ++ toString found
  | invalidParameter owner label fault =>
    "invalid `" ++ label ++ "` parameter to " ++ owner.name ++ ": " ++ fault.text
  | negativeDimension value =>
    "fixed dimensions must be non-negative, got " ++ toString value.toInt
  | typeVarSymbol symbol =>
    "type variable symbol " ++ Text.shown symbol ++ " does not begin with a capital letter"
  | duplicateField name => "duplicate field " ++ Text.shown name ++ " in record"
  | unsupportedEncoding spelling => "unsupported string encoding " ++ Text.shown spelling
  | outOfRange leading available type =>
    "not enough dimensions in " ++ type.canonical ++ " to remove " ++ toString leading ++
      " leading dimensions (has " ++ toString available ++ ")"

end ShapeAlgebra
