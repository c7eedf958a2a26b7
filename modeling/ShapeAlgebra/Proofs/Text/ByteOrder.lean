import Mathlib.Tactic.Conv
import Mathlib.Tactic.SplitIfs

/-!
# Texts in the order of their bytes

Texts are ordered by their code points. Their bytes in UTF-8 come in the same order: the
first byte of a longer encoding is above that of a shorter one, and among encodings of one
length the bytes are the digits of the code point, the most significant first.
-/
namespace ShapeAlgebra.Text

def bytes (s : String) : List UInt8 := s.toUTF8.data.toList

theorem bytes_eq_flatMap (s : String) : bytes s = s.toList.flatMap String.utf8EncodeChar := by
  conv_lhs => rw [← String.ofList_toList (s := s)]
  rw [bytes, String.toUTF8_eq_toByteArray, String.toByteArray_ofList, List.utf8Encode,
    List.data_toByteArray]

/-- The last `count` digits of a code point to the base 64, as bytes that continue an encoding. -/
def continuation : (count : Nat) → Nat → List UInt8
  | 0, _ => []
  | count + 1, v => continuation count (v / 64) ++ [UInt8.ofNat (v % 64 + 128)]

/-- What stands above the last `count` digits. -/
def above : (count : Nat) → Nat → Nat
  | 0, v => v
  | count + 1, v => above count (v / 64)

theorem byte_cons_lt {m n : Nat} (hn : n < 256) {l l' : List UInt8}
    (h : m < n ∨ m = n ∧ l < l') : UInt8.ofNat m :: l < UInt8.ofNat n :: l' := by
  rw [List.cons_lt_cons_iff]
  rcases h with hlt | ⟨rfl, hl⟩
  · left
    rw [UInt8.lt_iff_toNat_lt, UInt8.toNat_ofNat', UInt8.toNat_ofNat']
    omega
  · exact .inr ⟨rfl, hl⟩

/-- Numbers that agree above their last digits are ordered like these digits. -/
theorem continuation_append_lt {count v w : Nat} (hlt : v < w)
    (hsame : above count v = above count w) (l l' : List UInt8) :
    continuation count v ++ l < continuation count w ++ l' := by
  induction count generalizing v w l l' with
  | zero => exact absurd hsame (Nat.ne_of_lt hlt)
  | succ count ih =>
    unfold above at hsame
    unfold continuation
    rw [List.append_assoc, List.append_assoc]
    by_cases hhigh : v / 64 < w / 64
    · exact ih hhigh hsame _ _
    · have hequal : v / 64 = w / 64 := by omega
      rw [hequal]
      apply List.append_left_lt
      exact byte_cons_lt (by omega) (.inl (by omega))

/-- How a code point is encoded: the number of bytes after the first, and the first byte. -/
inductive Encoded (v : Nat) : (count first : Nat) → Prop
  | one (h : v < 128) : Encoded v 0 v
  | two (h : 128 ≤ v) (h' : v < 2048) : Encoded v 1 (v / 64 + 192)
  | three (h : 2048 ≤ v) (h' : v < 65536) : Encoded v 2 (v / 4096 + 224)
  | four (h : 65536 ≤ v) (h' : v < 1114112) : Encoded v 3 (v / 262144 + 240)

theorem exists_encoded (c : Char) : ∃ count first, Encoded c.val.toNat count first ∧
    String.utf8EncodeChar c = UInt8.ofNat first :: continuation count c.val.toNat := by
  have hmax : c.val.toNat < 1114112 := by
    rcases c.valid with h | ⟨-, h⟩ <;> omega
  unfold String.utf8EncodeChar
  generalize c.val.toNat = v at hmax
  dsimp only
  split_ifs with hone htwo hthree
  · exact ⟨0, v, .one (by omega), rfl⟩
  · refine ⟨1, _, .two (by omega) (by omega), ?_⟩
    rw [Nat.mod_eq_of_lt (a := v / 64) (by omega)]
    rfl
  · refine ⟨2, _, .three (by omega) (by omega), ?_⟩
    rw [Nat.mod_eq_of_lt (a := v / 4096) (by omega)]
    rfl
  · refine ⟨3, _, .four (by omega) (by omega), ?_⟩
    rw [Nat.mod_eq_of_lt (a := v / 262144) (by omega)]
    simp [continuation, Nat.div_div_eq_div_mul]

theorem Encoded.first_lt {v count first : Nat} (h : Encoded v count first) : first < 256 := by
  cases h <;> omega

/-- Of two code points the smaller has the smaller first byte, or both encodings have one
length and agree above the bytes that follow. -/
theorem Encoded.first_lt_or_same {v w count count' first first' : Nat}
    (hv : Encoded v count first) (hw : Encoded w count' first') (hlt : v < w) :
    first < first' ∨ first = first' ∧ count = count' ∧ above count v = above count w := by
  cases hv <;> cases hw <;>
    simp only [above, Nat.div_div_eq_div_mul, Nat.reduceMul, Nat.add_right_cancel_iff, true_and,
      and_self]
  all_goals omega

/-- Of two characters the smaller has the smaller bytes, whatever follows. -/
theorem encode_append_lt {c d : Char} (h : c < d) (l l' : List UInt8) :
    String.utf8EncodeChar c ++ l < String.utf8EncodeChar d ++ l' := by
  have hlt : c.val.toNat < d.val.toNat := UInt32.lt_iff_toNat_lt.mp h
  obtain ⟨count, first, hc, hcode⟩ := exists_encoded c
  obtain ⟨count', first', hd, hcode'⟩ := exists_encoded d
  rw [hcode, hcode', List.cons_append, List.cons_append]
  apply byte_cons_lt hd.first_lt
  rcases hc.first_lt_or_same hd hlt with hfirst | ⟨hfirst, rfl, hsame⟩
  · exact .inl hfirst
  · exact .inr ⟨hfirst, continuation_append_lt hlt hsame l l'⟩

theorem flatMap_encode_lt {cs ds : List Char} (h : cs < ds) :
    cs.flatMap String.utf8EncodeChar < ds.flatMap String.utf8EncodeChar := by
  induction h with
  | @nil d ds =>
    obtain ⟨count, first, -, hcode⟩ := exists_encoded d
    rw [List.flatMap_cons, hcode]
    exact List.Lex.nil
  | @cons c cs ds _ ih =>
    rw [List.flatMap_cons, List.flatMap_cons]
    exact List.append_left_lt ih
  | rel hlt =>
    rw [List.flatMap_cons, List.flatMap_cons]
    exact encode_append_lt hlt _ _

/-- Texts in the order of their code points are in the order of their bytes. -/
theorem bytes_lt_of_lt {s t : String} (h : s < t) : bytes s < bytes t := by
  rw [bytes_eq_flatMap, bytes_eq_flatMap]
  exact flatMap_encode_lt (String.lt_iff.mp h)

end ShapeAlgebra.Text
