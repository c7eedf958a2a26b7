import ShapeAlgebra.Text.CharacterClass

/-!
# Strings inside texts

Canonical forms quote their strings, construct expressions write them in printable ASCII,
and messages show them between double quotes. Each has escapes of its own.
-/
namespace ShapeAlgebra.Text

/-! ## Single-quoted literals

A backslash precedes every backslash and every quote of the string, so the first bare quote
ends the literal. -/

def quoteBody : List Char → List Char
  | [] => []
  | c :: cs =>
    if c = '\\' ∨ c = '\x27' then '\\' :: c :: quoteBody cs
    else c :: quoteBody cs

def quote (s : String) : String :=
  String.ofList ('\x27' :: (quoteBody s.toList ++ ['\x27']))

@[simp] theorem toList_quote (s : String) :
    (quote s).toList = '\x27' :: (quoteBody s.toList ++ ['\x27']) := by
  simp [quote]

/-! ## Printable ASCII

A backslash starts an escape of a length that its second character tells, and every other
character from the space to the tilde stands for itself. -/

/-- The last `width` hexadecimal digits of a number, in lower case. -/
def hexDigits : (width : Nat) → Nat → List Char
  | 0, _ => []
  | width + 1, n => hexDigits width (n / 16) ++ [Nat.digitChar (n % 16)]

def escapeChar (c : Char) : List Char :=
  if c = '\\' then ['\\', '\\']
  else if c = '\n' then ['\\', 'n']
  else if c = '\r' then ['\\', 'r']
  else if c = '\t' then ['\\', 't']
  else if ' ' ≤ c ∧ c ≤ '~' then [c]
  else if c.toNat < 0x100 then '\\' :: 'x' :: hexDigits 2 c.toNat
  else if c.toNat < 0x10000 then '\\' :: 'u' :: hexDigits 4 c.toNat
  else '\\' :: 'U' :: hexDigits 8 c.toNat

def escape (s : String) : String :=
  String.ofList (s.toList.flatMap escapeChar)

@[simp] theorem toList_escape (s : String) :
    (escape s).toList = s.toList.flatMap escapeChar := by
  simp [escape]

/-! ## Strings in messages

Every character that would not be seen is written by its code point. -/

def showChar (c : Char) : List Char :=
  if c = '"' ∨ c = '\\' then ['\\', c]
  else if c = '\x00' then ['\\', '0']
  else if c = '\t' then ['\\', 't']
  else if c = '\r' then ['\\', 'r']
  else if c = '\n' then ['\\', 'n']
  else if isPrintable c then [c]
  else ['\\', 'u', '\x7b'] ++ Nat.toDigits 16 c.toNat ++ ['\x7d']

def shown (s : String) : String :=
  String.ofList ('"' :: (s.toList.flatMap showChar ++ ['"']))

end ShapeAlgebra.Text
