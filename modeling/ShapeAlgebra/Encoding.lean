/-!
# Text encodings

The encodings of a string measure, each with its canonical name and the aliases it is
recognised by.
-/
namespace ShapeAlgebra

/-- The encoding of the text held by a string measure. -/
inductive Encoding where
  | ascii
  | utf8
  | utf16
  | utf32
deriving DecidableEq, Repr

namespace Encoding

def all : List Encoding := [ascii, utf8, utf16, utf32]

/-- The encoding of a string measure that names none. -/
def standard : Encoding := utf8

/-- The name written in canonical forms. -/
def name : Encoding → String
  | ascii => "A"
  | utf8 => "U8"
  | utf16 => "U16"
  | utf32 => "U32"

/-- Every spelling of an encoding, its canonical name first. -/
def aliases : Encoding → List String
  | ascii => ["A", "ascii"]
  | utf8 => ["U8", "utf-8", "utf_8", "utf8"]
  | utf16 => ["U16", "utf-16", "utf_16", "utf16"]
  | utf32 => ["U32", "utf-32", "utf_32", "utf32"]

def ofAlias? (spelling : String) : Option Encoding :=
  all.find? fun e => e.aliases.contains spelling

/-- Bytes per code unit. -/
def unitSize : Encoding → Nat
  | ascii => 1
  | utf8 => 1
  | utf16 => 2
  | utf32 => 4

@[simp] theorem ofAlias?_name (e : Encoding) : ofAlias? e.name = some e := by
  cases e <;> decide

end Encoding

end ShapeAlgebra
