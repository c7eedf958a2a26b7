/-!
# Kinds of types and the positions they fit

Every type has a kind, its outermost constructor. A kind tells whether the type belongs
before the last place of a datashape, in the last place, in either, or in neither.
-/
namespace ShapeAlgebra

/-- The two roles inside a datashape: dimensions come first, one measure comes last. -/
inductive Position where
  | dimension
  | measure
deriving DecidableEq, Repr

def Position.name : Position → String
  | .dimension => "dimension"
  | .measure => "measure"

/-- The outermost constructor of a type. -/
inductive Kind where
  | null
  | date
  | time
  | datetime
  | units
  | bytes
  | string
  | scalar
  | json
  | intConst
  | strConst
  | fixed
  | var
  | ellipsis
  | typeVar
  | datashape
  | record
  | tuple
  | function
  | option
  | implements
deriving DecidableEq, Repr

namespace Kind

/-- Every kind, in the order of the codes. -/
def all : List Kind :=
  [null, date, time, datetime, units, bytes, string, scalar, json, intConst, strConst,
   fixed, var, ellipsis, typeVar, datashape, record, tuple, function, option, implements]

def name : Kind → String
  | null => "Null"
  | date => "Date"
  | time => "Time"
  | datetime => "DateTime"
  | units => "Units"
  | bytes => "Bytes"
  | string => "String"
  | scalar => "CType"
  | json => "JSON"
  | intConst => "IntegerConstant"
  | strConst => "StringConstant"
  | fixed => "Fixed"
  | var => "Var"
  | ellipsis => "Ellipsis"
  | typeVar => "TypeVar"
  | datashape => "DataShape"
  | record => "Record"
  | tuple => "Tuple"
  | function => "Function"
  | option => "Option"
  | implements => "Implements"

def ofName? (s : String) : Option Kind :=
  all.find? fun k => k.name == s

/-- A number per kind, grouped: measures from 0, constants from 32, dimensions from 48,
variables from 64, composites from 96. -/
def code : Kind → Nat
  | null => 0
  | date => 1
  | time => 2
  | datetime => 3
  | units => 4
  | bytes => 5
  | string => 6
  | scalar => 7
  | json => 8
  | intConst => 32
  | strConst => 33
  | fixed => 48
  | var => 49
  | ellipsis => 50
  | typeVar => 64
  | datashape => 96
  | record => 97
  | tuple => 98
  | function => 99
  | option => 100
  | implements => 101

def sorted (ks : List Kind) : List Kind :=
  ks.mergeSort fun a b => a.code ≤ b.code

def isComposite (k : Kind) : Bool := 96 ≤ k.code

/-- The position a kind is made for; type variables, constraints, datashapes and
functions are made for none. -/
def position? : Kind → Option Position
  | intConst | fixed | var | ellipsis => some .dimension
  | typeVar | implements | datashape | function => none
  | _ => some .measure

/-- A kind that stands for types yet unknown, and so fits every position. -/
def isGeneric : Kind → Bool
  | typeVar | implements => true
  | _ => false

def fits (k : Kind) (p : Position) : Bool :=
  k.position? == some p || k.isGeneric

/-- The kind may stand on its own, as a whole datashape. -/
def isStandalone (k : Kind) : Bool :=
  k == datashape || k.fits .measure

@[simp] theorem ofName?_name (k : Kind) : ofName? k.name = some k := by
  cases k <;> decide

end Kind

end ShapeAlgebra
