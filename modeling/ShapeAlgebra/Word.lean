/-!
# Machine words

Conversion of integers to 64-bit words, where the integer fits.
-/
namespace ShapeAlgebra.Word

/-- The largest unsigned word. -/
def max : Nat := 18446744073709551615

/-- The integer as an unsigned word, if it is one. -/
def unsigned? (n : Int) : Option UInt64 :=
  if 0 ≤ n ∧ n ≤ 18446744073709551615 then some (UInt64.ofNat n.toNat) else none

/-- The integer as a signed word, if it is one. -/
def signed? (n : Int) : Option Int64 :=
  if -9223372036854775808 ≤ n ∧ n ≤ 9223372036854775807 then some (Int64.ofInt n) else none

def toSigned? (w : UInt64) : Option Int64 :=
  if w.toNat ≤ 9223372036854775807 then some w.toInt64 else none

@[simp] theorem unsigned?_toNat (w : UInt64) : unsigned? w.toNat = some w := by
  have h := w.toNat_lt
  simp [unsigned?, UInt64.ofNat_toNat]
  omega

@[simp] theorem signed?_toInt (w : Int64) : signed? w.toInt = some w := by
  have h := w.toInt_lt
  have h' := w.le_toInt
  simp only [signed?, Int64.ofInt_toInt]
  rw [if_pos ⟨h', Int.le_of_lt_add_one h⟩]

end ShapeAlgebra.Word
