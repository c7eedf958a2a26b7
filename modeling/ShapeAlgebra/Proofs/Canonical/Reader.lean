import ShapeAlgebra.Proofs.Text.Lexeme
import ShapeAlgebra.Proofs.Ty.Equality
import ShapeAlgebra.Ty.Canonical

/-!
# Reading canonical forms

A reader of the texts that `canonical` writes for types without display names. A text does
not show the sizes of scalars, so the types read have none.

Nesting is bounded by `fuel`, which also bounds the lengths of lists; the other functions
take the reader of the types one level down as an argument.
-/
namespace ShapeAlgebra

open Text

/-- Takes a value off the front of a text, and leaves the rest of it. -/
abbrev Reader (α : Type) := List Char → Option (α × List Char)

namespace Ty

def readLiteral : Reader String := fun cs => do
  let cs ← expect "'" cs
  let (body, cs) ← unquote cs
  return (String.ofList body, cs)

/-- A time zone in brackets, if there is one. -/
def readZone : Reader (Option String) := fun cs =>
  match expect "[tz=" cs with
  | none => some (none, cs)
  | some cs => do
    let (zone, cs) ← readLiteral cs
    let cs ← expect "]" cs
    return (some zone, cs)

/-- An encoding and the bracket that closes a string measure. -/
def readEncoding (length : Option UInt64) : Reader Ty := fun cs => do
  let (spelling, cs) ← readLiteral cs
  let encoding ← Encoding.ofAlias? spelling
  let cs ← expect "]" cs
  return (string length encoding, cs)

/-- The length and the encoding of a string measure, in brackets unless both are missing. -/
def readStringMeasure : Reader Ty := fun cs =>
  match expect "[" cs with
  | none => some (string none .standard, cs)
  | some cs =>
    match expect "'" cs with
    | some _ => readEncoding none cs
    | none =>
      let length := some (UInt64.ofNat (number (takeWord cs).1))
      match expect "," (takeWord cs).2 with
      | some cs => readEncoding length cs
      | none => (expect "]" (takeWord cs).2).map fun cs => (string length .standard, cs)

/-- What a symbol begins: an ellipsis, a constraint or a type variable. -/
def readVariable (symbol : String) (cs : List Char) : Ty × List Char :=
  match expect "..." cs, expect " : " cs with
  | some cs, _ => (ellipsis (some symbol), cs)
  | none, some cs => (implements symbol (takeWord cs).1, (takeWord cs).2)
  | none, none => (typeVar symbol, cs)

def readUnits (inner : Reader Ty) : Reader Ty := fun cs => do
  let cs ← expect "[" cs
  let (unit, cs) ← readLiteral cs
  match expect ", " cs with
  | none => (expect "]" cs).map fun cs => (units unit standardValue.unsized, cs)
  | some cs => do
    let (value, cs) ← inner cs
    let cs ← expect "]" cs
    return (units unit value, cs)

def readOption (inner : Reader Ty) : Reader Ty := fun cs => do
  let cs ← expect "[" cs
  let (value, cs) ← inner cs
  let cs ← expect "]" cs
  return (option value, cs)

/-- A complex scalar, named after its parts. -/
def readComplex : Reader Ty := fun cs => do
  let cs ← expect "[" cs
  let (part, cs) := takeWord cs
  let cs ← expect "]" cs
  return (scalar ⟨"complex[" ++ part ++ "]", 0, 0⟩, cs)

/-- The type that begins with a word. Symbols are told from all other words by their first
letter, numbers by their digits, and what is left over is the name of a scalar. -/
def readNamed (inner : Reader Ty) (word : String) : Reader Ty := fun cs =>
  if Symbol.isValid word then some (readVariable word cs)
  else if !isWord word then none
  else if word.toList.all Char.isDigit then some (fixed (UInt64.ofNat (number word)), cs)
  else
    match word with
    | "null" => some (null, cs)
    | "date" => some (date, cs)
    | "bytes" => some (bytes, cs)
    | "json" => some (json, cs)
    | "var" => some (var, cs)
    | "time" => (readZone cs).map fun r => (time r.1, r.2)
    | "datetime" => (readZone cs).map fun r => (datetime r.1, r.2)
    | "string" => readStringMeasure cs
    | "units" => readUnits inner cs
    | "option" => readOption inner cs
    | "complex" => readComplex cs
    | name => some (scalar ⟨name, 0, 0⟩, cs)

/-- One or more values with a text between them and a text after them. -/
def readList {α : Type} (read : Reader α) (separator terminator : String) :
    Nat → Reader (List α)
  | 0, _ => none
  | fuel + 1, cs => do
    let (a, cs) ← read cs
    match expect separator cs with
    | some cs => do
      let (as, cs) ← readList read separator terminator fuel cs
      return (a :: as, cs)
    | none => do
      let cs ← expect terminator cs
      return ([a], cs)

def readField (inner : Reader Ty) : Reader (String × Ty) := fun cs => do
  let (name, cs) := takeWord cs
  let cs ← expect " : " cs
  let (t, cs) ← inner cs
  return ((name, t), cs)

/-- A type that is no datashape, told by its first character. -/
def readItemWith (inner : Reader Ty) (fuel : Nat) : Reader Ty
  | '\x27' :: cs => (unquote cs).map fun r => (strConst (String.ofList r.1), r.2)
  | '-' :: cs => some (intConst (Int64.ofInt (-number (takeWord cs).1)), (takeWord cs).2)
  | '.' :: '.' :: '.' :: cs => some (ellipsis none, cs)
  | '\x7b' :: '\x7d' :: cs => some (record [], cs)
  | '\x7b' :: ' ' :: cs =>
    (readList (readField inner) ", " " \x7d" fuel cs).map fun r => (record r.1, r.2)
  | '(' :: cs =>
    match readList inner ", " ")" fuel cs with
    | some (ts, cs) => some (tuple ts, cs)
    | none => (expect ")" cs).map fun cs => (tuple [], cs)
  | cs => readNamed inner (takeWord cs).1 (takeWord cs).2

/-- A type that is no function: one item, or a datashape of several. -/
def readTypeWith (item : Reader Ty) (fuel : Nat) : Reader Ty := fun cs => do
  let (ts, cs) ← readList item " * " "" fuel cs
  match ts with
  | [t] => return (t, cs)
  | ts => return (datashape ts none, cs)

def readItem : Nat → Reader Ty
  | 0, _ => none
  | fuel + 1, cs => readItemWith (readTypeWith (fun cs => readItem fuel cs) fuel) fuel cs

def readType (fuel : Nat) : Reader Ty := readTypeWith (readItem fuel) fuel

/-- Any type. The arguments of a function are read as a tuple until the arrow is met. -/
def readAny (fuel : Nat) : Reader Ty := fun cs => do
  let (t, cs) ← readType fuel cs
  match expect " -> " cs, t with
  | some cs, tuple arguments => do
    let (result, cs) ← readType fuel cs
    return (function (arguments ++ [result]), cs)
  | _, _ => return (t, cs)

end Ty

end ShapeAlgebra
