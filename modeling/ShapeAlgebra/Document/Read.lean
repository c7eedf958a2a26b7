import ShapeAlgebra.Document.Basic
import ShapeAlgebra.Ty.Make

/-!
# Reading stored types

Reading takes back what is stored, and a little more: a label may stand as an object with
a null payload, a structure may be a list of its parts, and unknown members of a structure
are passed over. A member that is known may not stand twice. Every type read is built by its checked constructor, parts first, so a
document that is read is a well-formed type.
-/
namespace ShapeAlgebra

/-- Why a document is not read. -/
inductive ReadError where
  /-- The document has not the form of a type. -/
  | malformed
  /-- It has, but a constructor refuses its parts. -/
  | violation (cause : Violation)

abbrev Reading := Except ReadError

namespace Document

def malformed : Reading α := .error .malformed

/-- What a checked constructor makes of the parts. -/
def built (made : Except Violation α) : Reading α := made.mapError .violation

def readString : Document → Reading String
  | str s => .ok s
  | _ => malformed

def readOptionalString : Document → Reading (Option String)
  | null => .ok none
  | str s => .ok (some s)
  | _ => malformed

def readUnsigned : Document → Reading UInt64
  | int n =>
    match Word.unsigned? n with
    | some w => .ok w
    | none => malformed
  | _ => malformed

def readSigned : Document → Reading Int64
  | int n =>
    match Word.signed? n with
    | some w => .ok w
    | none => malformed
  | _ => malformed

def readOptionalUnsigned : Document → Reading (Option UInt64)
  | null => .ok none
  | doc => doc.readUnsigned.map some

/-- A label, alone or with a null payload. -/
def readLabel (find? : String → Option α) : Document → Reading α
  | str label | object [(label, null)] =>
    match find? label with
    | some a => .ok a
    | none => malformed
  | _ => malformed

def readKind : Document → Reading Kind := readLabel Kind.ofLabel?

def readPosition : Document → Reading Position := readLabel Position.ofLabel?

def readEncoding : Document → Reading Encoding := readLabel Encoding.ofLabel?

def readSymbol (doc : Document) : Reading String := do
  built (Symbol.parse (← doc.readString))

def readOptionalSymbol : Document → Reading (Option String)
  | null => .ok none
  | doc => doc.readSymbol.map some

/-- The type of a kind that has no parts. -/
def bare? : Kind → Option Ty
  | .null => some .null
  | .date => some .date
  | .bytes => some .bytes
  | .json => some .json
  | .var => some .var
  | _ => none

def readBare (label : String) : Reading Ty :=
  match (Kind.ofLabel? label).bind bare? with
  | some t => .ok t
  | none => malformed

/-- The type of a kind whose payload holds no further types. -/
def readPlain (kind : Kind) (payload : Document) : Reading Ty :=
  match kind with
  | .time =>
    match payload.parts? ["tz"] with
    | some [zone] => return .time (← zone.readOptionalString)
    | _ => malformed
  | .datetime =>
    match payload.parts? ["tz"] with
    | some [zone] => return .datetime (← zone.readOptionalString)
    | _ => malformed
  | .string =>
    match payload.parts? ["fixlen", "encoding"] with
    | some [length, encoding] =>
      return .string (← length.readOptionalUnsigned) (← encoding.readEncoding)
    | _ => malformed
  | .scalar =>
    match payload.parts? ["name", "itemsize", "alignment"] with
    | some [name, size, alignment] =>
      return .scalar ⟨← name.readString, ← size.readUnsigned, ← alignment.readUnsigned⟩
    | _ => malformed
  | .ellipsis =>
    match payload.parts? ["typevar"] with
    | some [symbol] => return .ellipsis (← symbol.readOptionalSymbol)
    | _ => malformed
  | .implements =>
    match payload.parts? ["typevar", "typeset"] with
    | some [symbol, typeset] =>
      return .implements (← symbol.readSymbol) (← typeset.readString)
    | _ => malformed
  | .intConst => return .intConst (← payload.readSigned)
  | .strConst => return .strConst (← payload.readString)
  | .fixed => return .fixed (← payload.readUnsigned)
  | .typeVar => return .typeVar (← payload.readSymbol)
  | kind =>
    match payload, bare? kind with
    | null, some t => return t
    | _, _ => malformed

def checkOnce (keys : List String) (members : List (String × Document)) : Reading Unit :=
  if standOnce keys members then .ok () else malformed

mutual
def read : Document → Reading Ty
  | str label => readBare label
  | object [(label, payload)] =>
    match Kind.ofLabel? label with
    | some kind => readPayload kind payload
    | none => malformed
  | _ => malformed

def readPayload : Kind → Document → Reading Ty
  | .units, list [unit, value] => do
    let unit ← unit.readString
    let value ← read value
    built (Ty.makeUnits unit (some value))
  | .units, object members => do
    checkOnce ["unit", "tp"] members
    let unit ← (member members "unit").readString
    let value ← readMember "tp" members
    built (Ty.makeUnits unit (some value))
  | .datashape, list [params, name] => do
    let params ← readTypes params
    let name ← name.readOptionalString
    built (Ty.makeNamed name params)
  | .datashape, object members => do
    checkOnce ["params", "name"] members
    let params ← readTypesMember "params" members
    let name ← (member members "name").readOptionalString
    built (Ty.makeNamed name params)
  | .record, list [fields] => do built (Ty.makeRecord (← readFields fields))
  | .record, object members => do
    checkOnce ["fields"] members
    built (Ty.makeRecord (← readFieldsMember "fields" members))
  | .tuple, list [types] => do built (Ty.makeTuple (← readTypes types))
  | .tuple, object members => do
    checkOnce ["dshapes"] members
    built (Ty.makeTuple (← readTypesMember "dshapes" members))
  | .function, list [params] => do built (Ty.makeFunction (← readTypes params))
  | .function, object members => do
    checkOnce ["params"] members
    built (Ty.makeFunction (← readTypesMember "params" members))
  | .option, list [value] => do built (Ty.makeOption (← read value))
  | .option, object members => do
    checkOnce ["ty"] members
    built (Ty.makeOption (← readMember "ty" members))
  | kind, payload => readPlain kind payload

def readMember (key : String) : List (String × Document) → Reading Ty
  | [] => malformed
  | (k, doc) :: members => if k = key then read doc else readMember key members

def readTypes : Document → Reading (List Ty)
  | list items => readAll items
  | _ => malformed

def readTypesMember (key : String) : List (String × Document) → Reading (List Ty)
  | [] => malformed
  | (k, doc) :: members => if k = key then readTypes doc else readTypesMember key members

def readAll : List Document → Reading (List Ty)
  | [] => .ok []
  | doc :: docs => do
    let t ← read doc
    let ts ← readAll docs
    return t :: ts

def readFields : Document → Reading (List (String × Ty))
  | list items => readEachField items
  | _ => malformed

def readFieldsMember (key : String) :
    List (String × Document) → Reading (List (String × Ty))
  | [] => malformed
  | (k, doc) :: members => if k = key then readFields doc else readFieldsMember key members

/-- Each field, stored as its name and its type. -/
def readEachField : List Document → Reading (List (String × Ty))
  | [] => .ok []
  | list [str name, doc] :: docs => do
    let t ← read doc
    let fs ← readEachField docs
    return (name, t) :: fs
  | _ => malformed
end

end Document

end ShapeAlgebra
