import Mathlib.Data.List.Basic
import ShapeAlgebra.Text.Literal

/-!
# Lexemes of canonical forms

Words, numbers and quoted literals, each read off the front of a text. A word ends where
no word character follows, a literal at its closing quote, whatever comes after it.
-/
namespace ShapeAlgebra.Text

/-- ASCII letters, digits and the underscore. -/
def isWordChar (c : Char) : Bool := c.isAlphanum || c == '_'

/-- A nonempty string of word characters. -/
def isWord (s : String) : Bool := !s.toList.isEmpty && s.toList.all isWordChar

/-- The text after a fixed text at the front. -/
def expect (text : String) (cs : List Char) : Option (List Char) :=
  text.toList.isPrefixOf? cs

/-- The longest word at the front, and what follows it. -/
def takeWord (cs : List Char) : String × List Char :=
  (String.ofList (cs.takeWhile isWordChar), cs.dropWhile isWordChar)

/-- The number that the digits of a word denote. -/
def number (word : String) : Nat := Nat.ofDigitChars 10 word.toList 0

/-- The string of a literal whose opening quote has been read, and what follows it. -/
def unquote : List Char → Option (List Char × List Char)
  | [] => none
  | '\x27' :: cs => some ([], cs)
  | '\\' :: c :: cs => (unquote cs).map fun r => (c :: r.1, r.2)
  | c :: cs => (unquote cs).map fun r => (c :: r.1, r.2)

@[simp] theorem expect_append (text : String) (cs : List Char) :
    expect text (text.toList ++ cs) = some cs :=
  List.isPrefixOf?_eq_some_iff_append_eq.mpr rfl

theorem unquote_quoteBody (s u : List Char) :
    unquote (quoteBody s ++ '\x27' :: u) = some (s, u) := by
  induction s with
  | nil => rfl
  | cons c s ih =>
    by_cases h : c = '\\' ∨ c = '\x27'
    · simp [quoteBody, h, unquote, ih]
    · obtain ⟨hb, hq⟩ := not_or.mp h
      simp only [quoteBody, if_neg h, List.cons_append]
      rw [unquote]
      · rw [ih]
        rfl
      · exact hq
      · rintro d ds rfl
        exact absurd rfl hb

theorem isWordChar_of_isDigit {c : Char} (h : c.isDigit = true) : isWordChar c = true := by
  simp [isWordChar, Char.isAlphanum, h]

/-- No word character stands at the front. -/
def WordEnd (cs : List Char) : Prop := ∀ c ∈ cs.head?, isWordChar c = false

theorem takeWord_append {w : String} {u : List Char} (hw : w.toList.all isWordChar = true)
    (hu : WordEnd u) : takeWord (w.toList ++ u) = (w, u) := by
  have hall : ∀ c ∈ w.toList, isWordChar c = true := List.all_eq_true.mp hw
  unfold takeWord
  rw [List.takeWhile_append_of_pos hall, List.dropWhile_append_of_pos hall]
  cases u with
  | nil => simp
  | cons c u =>
    have hc : isWordChar c = false := hu c rfl
    simp [hc]

/-- The digits of a number, as a word. -/
theorem isWord_repr (n : Nat) : isWord n.repr = true := by
  rw [isWord, Nat.toList_repr, Bool.and_eq_true, List.all_eq_true]
  constructor
  · have := @Nat.toDigits_ne_nil n 10
    cases h : Nat.toDigits 10 n <;> simp_all
  · intro c hc
    exact isWordChar_of_isDigit (Nat.isDigit_of_mem_toDigits (by decide) (by decide) hc)

@[simp] theorem number_repr (n : Nat) : number n.repr = n := by
  rw [number, Nat.toList_repr, Nat.ofDigitChars_ten_toDigits]

theorem isWord_iff {s : String} :
    isWord s = true ↔ s.toList ≠ [] ∧ s.toList.all isWordChar = true := by
  simp [isWord]

end ShapeAlgebra.Text
