import ShapeAlgebra.Encoding
import ShapeAlgebra.Kind

/-!
# Documents

The tree a type is stored as, and the labels that stand for kinds, positions and encodings
in it.
-/
namespace ShapeAlgebra

/-- A stored tree. -/
inductive Document where
  | null
  | bool (value : Bool)
  | int (value : Int)
  /-- The number `mantissa / 10 ^ places`. -/
  | decimal (mantissa : Int) (places : Nat)
  | str (value : String)
  | list (items : List Document)
  | object (members : List (String × Document))
deriving Inhabited

namespace Document

def ofString? : Option String → Document
  | none => null
  | some s => str s

/-- No key stands twice among the members. Members under other keys do not matter. -/
def standOnce (keys : List String) (members : List (String × Document)) : Bool :=
  keys.all fun key => members.countP (fun m => m.1 == key) ≤ 1

/-- The member of an object under a key, or null. -/
def member (members : List (String × Document)) (key : String) : Document :=
  (members.lookup key).getD null

/-- The parts of a structure, from a list of exactly those or from an object that has them
under their keys, none twice. What an object lacks is taken to be null. -/
def parts? (keys : List String) : Document → Option (List Document)
  | list items => if items.length = keys.length then some items else none
  | object members => if standOnce keys members then some (keys.map (member members)) else none
  | _ => none

end Document

def Kind.label : Kind → String
  | json => "Json"
  | k => k.name

def Kind.ofLabel? (label : String) : Option Kind :=
  all.find? fun k => k.label == label

def Position.label : Position → String
  | dimension => "Dimension"
  | measure => "Measure"

def Position.ofLabel? (label : String) : Option Position :=
  [dimension, measure].find? fun p => p.label == label

def Encoding.label : Encoding → String
  | ascii => "Ascii"
  | utf8 => "Utf8"
  | utf16 => "Utf16"
  | utf32 => "Utf32"

def Encoding.ofLabel? (label : String) : Option Encoding :=
  all.find? fun e => e.label == label

@[simp] theorem Kind.ofLabel?_label (k : Kind) : ofLabel? k.label = some k := by
  cases k <;> decide

@[simp] theorem Encoding.ofLabel?_label (e : Encoding) : ofLabel? e.label = some e := by
  cases e <;> decide

end ShapeAlgebra
