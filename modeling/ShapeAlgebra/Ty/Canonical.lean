import ShapeAlgebra.Text.Literal
import ShapeAlgebra.Ty.Equality

/-!
# Canonical forms

The text of a type. Parts that have their standard value are left out, and a named
datashape is written by its name alone.
-/
namespace ShapeAlgebra

/-- A keyword, with a time zone in brackets if there is one. -/
def Text.zoned (keyword : String) : Option String → String
  | none => keyword
  | some zone => keyword ++ "[tz=" ++ quote zone ++ "]"

/-- A string measure; the standard encoding is not written. -/
def Text.stringMeasure (length : Option UInt64) (encoding : Encoding) : String :=
  if encoding = .standard then
    match length with
    | none => "string"
    | some n => "string[" ++ toString n.toNat ++ "]"
  else
    match length with
    | none => "string[" ++ quote encoding.name ++ "]"
    | some n => "string[" ++ toString n.toNat ++ "," ++ quote encoding.name ++ "]"

namespace Ty

mutual
def canonical : Ty → String
  | null => "null"
  | date => "date"
  | time zone => Text.zoned "time" zone
  | datetime zone => Text.zoned "datetime" zone
  | units unit value =>
    if value == standardValue then "units[" ++ Text.quote unit ++ "]"
    else "units[" ++ Text.quote unit ++ ", " ++ canonical value ++ "]"
  | bytes => "bytes"
  | string length encoding => Text.stringMeasure length encoding
  | scalar s => s.name
  | json => "json"
  | intConst value => toString value.toInt
  | strConst value => Text.quote value
  | fixed extent => toString extent.toNat
  | var => "var"
  | ellipsis none => "..."
  | ellipsis (some symbol) => symbol ++ "..."
  | typeVar symbol => symbol
  | datashape _ (some name) => name
  | datashape params none => String.intercalate " * " (canonicals params)
  | record [] => "\x7b\x7d"
  | record fields =>
    "\x7b " ++ String.intercalate ", " (canonicalFields fields) ++ " \x7d"
  | tuple members => "(" ++ String.intercalate ", " (canonicals members) ++ ")"
  | function params =>
    "(" ++ String.intercalate ", " (canonicals params).dropLast ++ ") -> " ++
      (canonicals params).getLastD ""
  | option value => "option[" ++ canonical value ++ "]"
  | implements symbol typeset => symbol ++ " : " ++ typeset

def canonicals : List Ty → List String
  | [] => []
  | t :: ts => canonical t :: canonicals ts

def canonicalFields : List (String × Ty) → List String
  | [] => []
  | (name, t) :: fs => (name ++ " : " ++ canonical t) :: canonicalFields fs
end

instance : ToString Ty := ⟨canonical⟩

theorem canonicals_eq_map (ts : List Ty) : canonicals ts = ts.map canonical := by
  induction ts with
  | nil => rfl
  | cons t ts ih => simp [canonicals, ih]

theorem canonicalFields_eq_map (fs : List (String × Ty)) :
    canonicalFields fs = fs.map fun f => f.1 ++ " : " ++ f.2.canonical := by
  induction fs with
  | nil => rfl
  | cons f fs ih => simp [canonicalFields, ih]

end Ty

end ShapeAlgebra
