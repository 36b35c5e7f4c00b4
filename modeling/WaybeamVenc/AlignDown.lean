import Mathlib.Data.Nat.Bitwise

namespace WaybeamVenc.AlignDown

/-- Clearing the low bits of a number rounds it down to a power of two. -/
theorem and_high_mask {w k x : Nat} (hk : k ≤ w) (hx : x < 2 ^ w) : x &&& (2 ^ w - 2 ^ k) = x / 2 ^ k * 2 ^ k := by
  have hmask : 2 ^ w - 2 ^ k = (2 ^ (w - k) - 1) <<< k := by
    rw [Nat.shiftLeft_eq, Nat.sub_mul, ← Nat.pow_add, Nat.sub_add_cancel hk, Nat.one_mul]
  have hround : x / 2 ^ k * 2 ^ k = (x >>> k) <<< k := by
    rw [Nat.shiftLeft_eq, Nat.shiftRight_eq_div_pow]
  rw [hmask, hround]
  apply Nat.eq_of_testBit_eq
  intro i
  simp only [Nat.testBit_and, Nat.testBit_shiftLeft, Nat.testBit_two_pow_sub_one, Nat.testBit_shiftRight]
  by_cases hi : k ≤ i
  · have hindex : k + (i - k) = i := by omega
    by_cases hlow : i - k < w - k
    · simp [hi, hlow, hindex]
    · have hle : w ≤ i := by omega
      simp [hlow, hindex, Nat.testBit_lt_two_pow (Nat.lt_of_lt_of_le hx (Nat.pow_le_pow_right (by decide) hle))]
  · simp [hi]

end WaybeamVenc.AlignDown
