import ShapeAlgebra.Encoding
import ShapeAlgebra.Kind
import ShapeAlgebra.Scalar
import ShapeAlgebra.Text.CharacterClass

/-!
# Types

Trees describing the data they classify. A *datashape* lists dimensions and ends in a
measure; records, tuples, functions and options are built from standalone types.

The trees themselves carry no conditions. The constructors that check them are the
functions `make…`; `Ty.WellFormed` states what they check.
-/
namespace ShapeAlgebra

inductive Ty where
  | null
  | date
  /-- A time of day, with the name of its time zone. -/
  | time (zone : Option String)
  | datetime (zone : Option String)
  /-- Numbers of the type `value` counting the unit. -/
  | units (unit : String) (value : Ty)
  | bytes
  /-- Text, of a fixed number of code units if `length` is given. -/
  | string (length : Option UInt64) (encoding : Encoding)
  | scalar (scalar : Scalar)
  | json
  | intConst (value : Int64)
  | strConst (value : String)
  /-- A dimension of known extent. -/
  | fixed (extent : UInt64)
  /-- A dimension whose extent varies. -/
  | var
  /-- Any number of dimensions, as a variable if a symbol is given. -/
  | ellipsis (symbol : Option String)
  | typeVar (symbol : String)
  /-- Dimensions followed by a measure; a named one is written by its name. -/
  | datashape (params : List Ty) (name : Option String)
  | record (fields : List (String × Ty))
  | tuple (members : List Ty)
  /-- Types of the arguments followed by the type of the result. -/
  | function (params : List Ty)
  | option (value : Ty)
  /-- A type variable constrained to a named set of types. -/
  | implements (symbol : String) (typeset : String)

namespace Ty

def kind : Ty → Kind
  | null => .null
  | date => .date
  | time _ => .time
  | datetime _ => .datetime
  | units _ _ => .units
  | bytes => .bytes
  | string _ _ => .string
  | scalar _ => .scalar
  | json => .json
  | intConst _ => .intConst
  | strConst _ => .strConst
  | fixed _ => .fixed
  | var => .var
  | ellipsis _ => .ellipsis
  | typeVar _ => .typeVar
  | datashape _ _ => .datashape
  | record _ => .record
  | tuple _ => .tuple
  | function _ => .function
  | option _ => .option
  | implements _ _ => .implements

def position? (t : Ty) : Option Position := t.kind.position?

def fits (t : Ty) (p : Position) : Bool := t.kind.fits p

def isStandalone (t : Ty) : Bool := t.kind.isStandalone

/-- The leading dimensions; a type that is no datashape has none. -/
def shape : Ty → List Ty
  | datashape params _ => params.dropLast
  | _ => []

/-- What the dimensions repeat; a type that is no datashape is its own measure. -/
def measure : Ty → Ty
  | datashape params name => params.getLastD (datashape params name)
  | t => t

def name? : Ty → Option String
  | datashape _ name => name
  | _ => none

/-- The named fields of a record, in the order of declaration. -/
def fields : Ty → List (String × Ty)
  | record fields => fields
  | _ => []

def field? (t : Ty) (name : String) : Option Ty :=
  t.fields.lookup name

def arguments : Ty → List Ty
  | function params => params.dropLast
  | _ => []

def result? : Ty → Option Ty
  | function params => params.getLast?
  | _ => none

/-- The value type of units that name none. -/
def standardValue : Ty := scalar .float64

end Ty

/-! ## Symbols of type variables

A type variable is written by hand with a capital first letter. Generalising a type
introduces the symbols `i0`, `i1`, and so on. -/

namespace Symbol

/-- The symbol begins with a capital letter. -/
def isWritten (s : String) : Bool :=
  match s.toList with
  | c :: _ => Text.isCapital c
  | [] => false

/-- The symbol is `i` followed by at least one decimal digit. -/
def isNumbered (s : String) : Bool :=
  match s.toList with
  | 'i' :: digits => !digits.isEmpty && digits.all Char.isDigit
  | _ => false

def isValid (s : String) : Bool :=
  isNumbered s || isWritten s

/-- The `n`-th symbol of a generalisation. -/
def numbered (n : Nat) : String := "i" ++ toString n

def sorted (symbols : List String) : List String :=
  symbols.mergeSort fun a b => a ≤ b

end Symbol

end ShapeAlgebra
