import Mathlib.Tactic.SplitIfs
import ShapeAlgebra.Word

/-!
# Which integers are machine words

The conversions to words succeed exactly on the values of words.
-/
namespace ShapeAlgebra.Word

theorem unsigned?_eq_some_iff {i : Int} {n : UInt64} :
    unsigned? i = some n ↔ i = n.toNat := by
  constructor
  · intro h
    unfold unsigned? at h
    split_ifs at h with hi
    obtain rfl := Option.some.inj h
    rw [UInt64.toNat_ofNat_of_lt' (by simp [UInt64.size]; omega)]
    omega
  · rintro rfl
    exact unsigned?_toNat n

theorem signed?_eq_some_iff {i : Int} {n : Int64} : signed? i = some n ↔ i = n.toInt := by
  constructor
  · intro h
    unfold signed? at h
    split_ifs at h with hi
    obtain rfl := Option.some.inj h
    rw [Int64.toInt_ofInt_of_le (by simp; omega) (by simp; omega)]
  · rintro rfl
    exact signed?_toInt n

theorem exists_unsigned? {w : Int64} (h : 0 ≤ w.toInt) : ∃ n, unsigned? w.toInt = some n := by
  have hw := w.toInt_lt
  exact ⟨_, if_pos ⟨h, by omega⟩⟩

theorem toInt_toInt64 {w : UInt64} (h : w.toNat ≤ 9223372036854775807) :
    w.toInt64.toInt = w.toNat := by
  change w.toBitVec.toInt = w.toBitVec.toNat
  exact BitVec.toInt_eq_toNat_of_lt (by change 2 * w.toNat < 2 ^ 64; omega)

theorem toSigned?_eq_some_iff {w : UInt64} {n : Int64} :
    toSigned? w = some n ↔ n.toInt = w.toNat := by
  have hn := n.toInt_lt
  unfold toSigned?
  split_ifs with h
  · rw [Option.some.injEq, ← Int64.toInt_inj, toInt_toInt64 h, eq_comm]
  · constructor
    · rintro ⟨⟩
    · omega

theorem toNat_add_ofNat_le (w : UInt64) (n : Nat) : (w + .ofNat n).toNat ≤ w.toNat + n := by
  rw [UInt64.toNat_add, UInt64.toNat_ofNat']
  omega

theorem toNat_add_ofNat {w : UInt64} {n : Nat} (h : w.toNat + n ≤ max) :
    (w + .ofNat n).toNat = w.toNat + n := by
  unfold max at h
  rw [UInt64.toNat_add, UInt64.toNat_ofNat']
  omega

end ShapeAlgebra.Word
