import Mathlib.Algebra.Order.Ring.Nat
import ShapeAlgebra.Proofs.Text.Delimited

/-!
# What construct expressions show

Escaping leaves printable ASCII only and loses nothing. Each character becomes a text that tells
where it ends: one plain character, or a backslash and a second character that says how many
digits follow. Scalars and strings, and in another call datashapes, records and tuples, are
shown by their escaped canonical forms, so their construct expressions agree exactly if their
canonical forms do.
-/
namespace ShapeAlgebra

namespace Text

/-! ## Reading escapes -/

/-- The value of a hexadecimal digit in lower case. -/
def hexValue (c : Char) : Nat :=
  if c.isDigit then c.toNat - '0'.toNat else c.toNat - 'a'.toNat + 10

/-- The number that hexadecimal digits denote. -/
def hexNumber (digits : List Char) : Nat :=
  digits.foldl (fun n c => 16 * n + hexValue c) 0

/-- The character whose code point stands at the front, in the given number of digits. -/
def readCodePoint (width : Nat) : Reader Char := fun cs =>
  some (Char.ofNat (hexNumber (cs.take width)), cs.drop width)

/-- The character of an escape whose backslash has been read. -/
def readEscape : Reader Char
  | [] => none
  | 'n' :: cs => some ('\n', cs)
  | 'r' :: cs => some ('\r', cs)
  | 't' :: cs => some ('\t', cs)
  | 'x' :: cs => readCodePoint 2 cs
  | 'u' :: cs => readCodePoint 4 cs
  | 'U' :: cs => readCodePoint 8 cs
  | c :: cs => some (c, cs)

/-- The first character of an escaped text, and what is left of the text. -/
def readEscaped : Reader Char
  | [] => none
  | c :: cs => if c = '\\' then readEscape cs else some (c, cs)

theorem hexValue_digitChar {d : Nat} (h : d < 16) : hexValue (Nat.digitChar d) = d := by
  revert d
  decide

theorem length_hexDigits (width n : Nat) : (hexDigits width n).length = width := by
  induction width generalizing n with
  | zero => rfl
  | succ width ih => simp [hexDigits, ih]

theorem hexNumber_hexDigits (width n : Nat) : hexNumber (hexDigits width n) = n % 16 ^ width := by
  induction width generalizing n with
  | zero => simp [hexDigits, hexNumber, Nat.mod_one]
  | succ width ih =>
    have hdigit := hexValue_digitChar (Nat.mod_lt n (show 0 < 16 by decide))
    have hfront := ih (n / 16)
    unfold hexNumber at hfront
    rw [hexDigits, hexNumber, List.foldl_append, hfront, List.foldl_cons, List.foldl_nil, hdigit,
      Nat.pow_succ', Nat.mod_mul]
    omega

theorem readCodePoint_hexDigits {c : Char} {width : Nat} (h : c.toNat < 16 ^ width)
    (u : List Char) : readCodePoint width (hexDigits width c.toNat ++ u) = some (c, u) := by
  have hlen := length_hexDigits width c.toNat
  rw [readCodePoint, List.take_left' hlen, List.drop_left' hlen, hexNumber_hexDigits,
    Nat.mod_eq_of_lt h, Char.ofNat_toNat]

theorem readEscaped_escapeChar (c : Char) (u : List Char) :
    readEscaped (escapeChar c ++ u) = some (c, u) := by
  -- The longest escape has more digits than any code point needs.
  have hcode : c.toNat < 0x110000 := by
    change c.val.toNat < _
    rcases c.valid with h | ⟨-, h⟩ <;> omega
  unfold escapeChar
  split_ifs with hslash hn hr ht hplain hx hu
  · simp [readEscaped, readEscape, hslash]
  · simp [readEscaped, readEscape, hn]
  · simp [readEscaped, readEscape, hr]
  · simp [readEscaped, readEscape, ht]
  · simp [readEscaped, hslash]
  · exact readCodePoint_hexDigits (by omega) u
  · exact readCodePoint_hexDigits (by omega) u
  · exact readCodePoint_hexDigits (by omega) u

theorem delimited_escapeChar : Delimited escapeChar :=
  .of_read readEscaped_escapeChar

theorem escape_injective : Function.Injective escape := by
  intro s t h
  have hne : ∀ c, escapeChar c ≠ [] := by
    intro c
    unfold escapeChar
    split_ifs <;> simp
  have hchars := congrArg String.toList h
  rw [toList_escape, toList_escape] at hchars
  exact String.toList_inj.mp (delimited_escapeChar.flatMap_injective hne hchars)

/-! ## Printable ASCII -/

/-- The character is one of those from the space to the tilde. -/
def isPlain (c : Char) : Bool := ' ' ≤ c ∧ c ≤ '~'

theorem isPlain_digitChar {d : Nat} (h : d < 16) : isPlain (Nat.digitChar d) = true := by
  revert d
  decide

theorem isPlain_of_mem_hexDigits {width n : Nat} {c : Char} (h : c ∈ hexDigits width n) :
    isPlain c = true := by
  induction width generalizing n with
  | zero => cases h
  | succ width ih =>
    rcases List.mem_append.mp h with h | h
    · exact ih h
    · rw [List.mem_singleton.mp h]
      exact isPlain_digitChar (Nat.mod_lt n (by decide))

theorem isPlain_of_mem_escapeChar {c d : Char} (h : d ∈ escapeChar c) : isPlain d = true := by
  have hplain : ∀ e ∈ escapeChar c, isPlain e = true := by
    unfold escapeChar
    split_ifs with hslash hn hr ht hself hx hu <;> simp only [List.forall_mem_cons]
    · exact ⟨by decide, by decide, List.forall_mem_nil _⟩
    · exact ⟨by decide, by decide, List.forall_mem_nil _⟩
    · exact ⟨by decide, by decide, List.forall_mem_nil _⟩
    · exact ⟨by decide, by decide, List.forall_mem_nil _⟩
    · exact ⟨decide_eq_true hself, List.forall_mem_nil _⟩
    · exact ⟨by decide, by decide, fun e => isPlain_of_mem_hexDigits⟩
    · exact ⟨by decide, by decide, fun e => isPlain_of_mem_hexDigits⟩
    · exact ⟨by decide, by decide, fun e => isPlain_of_mem_hexDigits⟩
  exact hplain d h

theorem isPlain_of_mem_escape {s : String} {c : Char} (h : c ∈ (escape s).toList) :
    isPlain c = true := by
  rw [toList_escape] at h
  obtain ⟨d, -, hc⟩ := List.mem_flatMap.mp h
  exact isPlain_of_mem_escapeChar hc

end Text

/-! ## Escaped canonical forms -/

/-- The kinds of types shown by their escaped canonical forms, in one call or another. -/
def Kind.escapedGroups : List (List Kind) := [[scalar, string], [datashape, record, tuple]]

namespace Ty

open Text

/-- Types of one group are shown by one call, with nothing but the canonical form as argument. -/
theorem exists_opening {group : List Kind} (h : group ∈ Kind.escapedGroups) :
    ∃ opening, opening.toList.all isPlain = true ∧ ∀ t : Ty, t.kind ∈ group →
      t.expression = opening ++ (escape t.canonical ++ "\")") := by
  simp only [Kind.escapedGroups, List.mem_cons, List.not_mem_nil, or_false] at h
  rcases h with rfl | rfl
  · refine ⟨"ctype(\"", by decide, fun t ht => ?_⟩
    cases t <;> simp [kind, expression, String.append_assoc] at ht ⊢
  · refine ⟨"dshape(\"", by decide, fun t ht => ?_⟩
    cases t <;> simp [kind, expression, String.append_assoc] at ht ⊢

/-- Escaping gives printable ASCII and gives different texts for different strings. So the
construct expressions of scalars and strings, and those of datashapes, records and tuples,
are printable, and within each of the two groups types have the same construct expression
exactly if they have the same canonical form. -/
theorem expression_eq_iff_canonical_eq :
    (∀ s, ∀ c ∈ (escape s).toList, isPlain c = true) ∧
      (∀ s t, escape s = escape t → s = t) ∧
      ∀ group ∈ Kind.escapedGroups,
        (∀ t : Ty, t.kind ∈ group → ∀ c ∈ t.expression.toList, isPlain c = true) ∧
          ∀ a b : Ty, a.kind ∈ group → b.kind ∈ group →
            (a.expression = b.expression ↔ a.canonical = b.canonical) := by
  refine ⟨fun s c => isPlain_of_mem_escape, fun s t h => escape_injective h, ?_⟩
  intro group hgroup
  obtain ⟨opening, hopening, hexpression⟩ := exists_opening hgroup
  constructor
  · intro t ht c hc
    rw [hexpression t ht] at hc
    simp only [String.toList_append, List.mem_append] at hc
    rcases hc with hc | hc | hc
    · exact List.all_eq_true.mp hopening c hc
    · exact isPlain_of_mem_escape hc
    · have hclosing : "\")".toList.all isPlain = true := by decide
      exact List.all_eq_true.mp hclosing c hc
  · intro a b ha hb
    rw [hexpression a ha, hexpression b hb, String.append_right_inj, String.append_left_inj]
    exact escape_injective.eq_iff

/-- A datashape named by a line break. -/
def brokenName : Ty := datashape [fixed 3, json] (some "\n")

/-- A datashape named by what a line break is escaped to. -/
def spelledName : Ty := datashape [fixed 3, json] (some "\\n")

theorem expression_eq_iff_canonical_eq_lineBreak :
    (∀ c ∈ brokenName.expression.toList, isPlain c = true) ∧
      brokenName.canonical ≠ spelledName.canonical ∧
      brokenName.expression ≠ spelledName.expression := by
  obtain ⟨-, -, hgroups⟩ := expression_eq_iff_canonical_eq
  obtain ⟨hplain, hiff⟩ := hgroups [.datashape, .record, .tuple] (by simp [Kind.escapedGroups])
  have hdiffer : brokenName.canonical ≠ spelledName.canonical := by decide
  refine ⟨hplain brokenName (by decide), hdiffer, ?_⟩
  intro h
  exact hdiffer ((hiff brokenName spelledName (by decide) (by decide)).mp h)

end Ty

end ShapeAlgebra
