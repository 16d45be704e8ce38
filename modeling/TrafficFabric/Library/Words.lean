import Mathlib.Data.UInt

/-
  Words that are mixed reversibly: a right shift folded into
  the word, and a multiplication by a word that has an
  inverse. Times that are subtracted.
-/

namespace UInt64

theorem eq_zero_of_eq_shiftRight {word amount : UInt64} (hAmount : 0 < amount.toNat % 64)
    (hFixed : word = word >>> amount) : word = 0 := by
  have hNat := congrArg UInt64.toNat hFixed
  rw [UInt64.toNat_shiftRight, Nat.shiftRight_eq_div_pow] at hNat
  have hTwo := Nat.one_lt_two_pow (Nat.ne_of_gt hAmount)
  have hZero : word.toNat = 0 := by
    by_contra hSome
    have hLess := Nat.div_lt_self (Nat.pos_of_ne_zero hSome) hTwo
    omega
  exact UInt64.toNat_inj.mp hZero

/- Folding a right shift into a word is reversible. -/
theorem xor_shiftRight_injective (amount : UInt64) (hAmount : 0 < amount.toNat % 64) :
    Function.Injective (fun word : UInt64 => word ^^^ (word >>> amount)) := by
  intro a b hSame
  have hDifference : a ^^^ b = (a ^^^ b) >>> amount := by
    rw [UInt64.shiftRight_xor]
    calc a ^^^ b = (a ^^^ (a >>> amount)) ^^^ (a >>> amount) ^^^ b := by
          rw [UInt64.xor_assoc a, UInt64.xor_self, UInt64.xor_zero]
      _ = (b ^^^ (b >>> amount)) ^^^ (a >>> amount) ^^^ b := by
          rw [show a ^^^ (a >>> amount) = b ^^^ (b >>> amount) from hSame]
      _ = (a >>> amount) ^^^ (b >>> amount) := by
          rw [UInt64.xor_comm _ b, ← UInt64.xor_assoc b, ← UInt64.xor_assoc b, UInt64.xor_self,
            UInt64.zero_xor, UInt64.xor_comm]
  exact UInt64.xor_eq_zero_iff.mp (eq_zero_of_eq_shiftRight hAmount hDifference)

/- Multiplying by a word with an inverse is reversible. -/
theorem mul_right_injective_of_inverse (factor inverse : UInt64) (hInverse : factor * inverse = 1) :
    Function.Injective (fun word : UInt64 => word * factor) := by
  intro a b hSame
  calc a = a * factor * inverse := by
        rw [UInt64.mul_assoc, hInverse, UInt64.mul_one]
    _ = b * factor * inverse := by rw [show a * factor = b * factor from hSame]
    _ = b := by rw [UInt64.mul_assoc, hInverse, UInt64.mul_one]

end UInt64
