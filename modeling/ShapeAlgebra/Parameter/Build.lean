import ShapeAlgebra.Ty.Make

/-!
# Types from parameters

Any kind of type can be built from a list of parameters. They are taken from the front of
the list as they are asked for; those missing at the end count as omitted, and none may be
left over. A constant type serves wherever its plain value does.
-/
namespace ShapeAlgebra

namespace Parameter

/-- A place for a parameter: the kind being built and the label of the parameter. -/
structure Slot where
  owner : Kind
  label : String

namespace Slot

def fail (s : Slot) (fault : Fault) : Except Violation α :=
  .error (.invalidParameter s.owner s.label fault)

def integer (s : Slot) : Parameter → Except Violation Int
  | int value => .ok value
  | type (.intConst value) => .ok value.toInt
  | p => s.fail (.mismatch .integer p)

def optionalInteger (s : Slot) : Parameter → Except Violation (Option Int)
  | omitted => .ok none
  | int value => .ok (some value)
  | type (.intConst value) => .ok (some value.toInt)
  | p => s.fail (.mismatch .optionalInteger p)

def optionalLength (s : Slot) (p : Parameter) : Except Violation (Option UInt64) := do
  match ← s.optionalInteger p with
  | none => return none
  | some value =>
    match Word.unsigned? value with
    | some n => return some n
    | none => s.fail .negative

def signed (s : Slot) (p : Parameter) : Except Violation Int64 := do
  let value ← s.integer p
  match Word.signed? value with
  | some n => return n
  | none => s.fail (.outOfRange value)

def unsigned (s : Slot) (p : Parameter) : Except Violation UInt64 := do
  let value ← s.integer p
  match Word.unsigned? value with
  | some n => return n
  | none => s.fail (.outOfRange value)

/-- The extent of a fixed dimension. A negative word is told apart from what is no word. -/
def extent (s : Slot) (p : Parameter) : Except Violation UInt64 := do
  let value ← s.integer p
  match Word.unsigned? value, Word.signed? value with
  | some n, _ => return n
  | none, some negative => throw (.negativeDimension negative)
  | none, none => s.fail (.outOfRange value)

def optionalString (s : Slot) : Parameter → Except Violation (Option String)
  | omitted => .ok none
  | str value => .ok (some value)
  | type (.strConst value) => .ok (some value)
  | p => s.fail (.mismatch .optionalString p)

def string (s : Slot) (p : Parameter) : Except Violation String := do
  match ← s.optionalString p with
  | some value => return value
  | none => s.fail (.missing .string)

def optionalType (s : Slot) : Parameter → Except Violation (Option Ty)
  | omitted => .ok none
  | type t => .ok (some t)
  | p => s.fail (.mismatch .optionalType p)

def type (s : Slot) (p : Parameter) : Except Violation Ty := do
  match ← s.optionalType p with
  | some t => return t
  | none => s.fail (.missing .type)

/-- The symbol of a type variable, given as the variable or as its symbol. -/
def optionalSymbol (s : Slot) : Parameter → Except Violation (Option String)
  | omitted => .ok none
  | .type (.typeVar symbol) => .ok (some symbol)
  | str symbol => (Symbol.parse symbol).map some
  | p => s.fail (.mismatch .typeVariable p)

def symbol (s : Slot) (p : Parameter) : Except Violation String := do
  match ← s.optionalSymbol p with
  | some symbol => return symbol
  | none => s.fail (.missing .typeVariable)

def types (s : Slot) : Parameter → Except Violation (List Ty)
  | .types ts => .ok ts
  | p => s.fail (.mismatch .typeList p)

def fields (s : Slot) : Parameter → Except Violation (List (String × Ty))
  | .fields fs => .ok fs
  | omitted => .ok []
  | p => s.fail (.mismatch .fieldList p)

def eachType (s : Slot) : List Parameter → Except Violation (List Ty)
  | [] => .ok []
  | .type t :: ps => (s.eachType ps).map (t :: ·)
  | p :: _ => s.fail (.mismatch .type p)

end Slot

/-- The length and the encoding of a string measure; a lone string is the encoding. -/
def lengthAndEncoding : Parameter → Parameter → Parameter × Parameter
  | str value, omitted => (omitted, str value)
  | type (.strConst value), omitted => (omitted, type (.strConst value))
  | first, second => (first, second)

/-- A computation that takes parameters from the front of a list. -/
abbrev Taking := StateT (List Parameter) (Except Violation)

namespace Taking

/-- Takes one parameter. Past the end of the list it is omitted. -/
def next : Taking Parameter :=
  modifyGet fun ps => (ps.headD omitted, ps.tail)

def one (read : Parameter → Except Violation α) : Taking α := do
  read (← next)

/-- Takes every parameter that is left and reads them together. -/
def rest (read : List Parameter → Except Violation α) : Taking α := do
  read (← modifyGet fun ps => (ps, []))

end Taking

end Parameter

namespace Ty

open Parameter

def buildString (first second : Parameter) : Except Violation Ty := do
  let parts := lengthAndEncoding first second
  let length ← (Slot.mk .string "fixlen").optionalLength parts.1
  let spelling ← (Slot.mk .string "encoding").optionalString parts.2
  makeString length spelling

open Taking in
/-- Takes what a type of the kind is made of, and makes it. -/
def production (kind : Kind) : Taking Ty :=
  let slot := Slot.mk kind
  match kind with
  | .null => return null
  | .date => return date
  | .bytes => return bytes
  | .json => return json
  | .var => return var
  | .time => return time (← one (slot "tz").optionalString)
  | .datetime => return datetime (← one (slot "tz").optionalString)
  | .units => do
    let unit ← one (slot "unit").string
    let value ← one (slot "tp").optionalType
    makeUnits unit value
  | .string => do
    let first ← next
    let second ← next
    buildString first second
  | .scalar => do
    let name ← one (slot "name").string
    let size ← one (slot "itemsize").unsigned
    let alignment ← one (slot "alignment").unsigned
    return scalar ⟨name, size, alignment⟩
  | .intConst => return intConst (← one (slot "i").signed)
  | .strConst => return strConst (← one (slot "s").string)
  | .fixed => return fixed (← one (slot "i").extent)
  | .typeVar => do makeTypeVar (← one (slot "symbol").string)
  | .ellipsis => return ellipsis (← one (slot "typevar").optionalSymbol)
  | .datashape => do makeDatashape (← rest (slot "params").eachType)
  | .record => do makeRecord (← one (slot "fields").fields)
  | .tuple => do makeTuple (← one (slot "dshapes").types)
  | .function => do makeFunction (← rest (slot "params").eachType)
  | .option => do makeOption (← one (slot "ds").type)
  | .implements => do
    let symbol ← one (slot "typevar").symbol
    let typeset ← one (slot "typeset").string
    return implements symbol typeset

/-- The type of a kind with the given parameters. Parameters that are left over are refused,
after everything else has been checked. -/
def ofParameters (kind : Kind) (ps : List Parameter) : Except Violation Ty := do
  let (t, left) ← (production kind).run ps
  if left.isEmpty then
    return t
  else
    throw (.arity kind .fewer ps.length)

end Ty

end ShapeAlgebra
