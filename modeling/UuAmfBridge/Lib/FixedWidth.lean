import Mathlib.Data.Int.Order.Basic
import Mathlib.Tactic.Ring

/-!
# Fixed-width arithmetic that does not wrap

The value of an operation on `Int32` and `UInt32` whose exact result fits.  The
lemmas take the values of the operands as hypotheses, so a chain of operations is
reduced one operation at a time.  `& ~1u` makes a number even.
-/

namespace UuAmfBridge

theorem toInt_mul_eq {a b : Int32} {m n : Nat} (ha : a.toInt = m) (hb : b.toInt = n)
    (h : m * n < 2 ^ 31) : (a * b).toInt = (m * n : Nat) := by
  rw [Int32.toInt_mul, ha, hb, ← Int.natCast_mul, Int.bmod_eq_of_le (by omega) (by omega)]

theorem toInt_add_eq {a b : Int32} {m n : Int} (ha : a.toInt = m) (hb : b.toInt = n)
    (hlow : -2 ^ 31 ≤ m + n) (hhigh : m + n < 2 ^ 31) : (a + b).toInt = m + n := by
  rw [Int32.toInt_add, ha, hb, Int.bmod_eq_of_le (by omega) (by omega)]

theorem toInt_sub_eq {a b : Int32} {m n : Int} (ha : a.toInt = m) (hb : b.toInt = n)
    (hlow : -2 ^ 31 ≤ m - n) (hhigh : m - n < 2 ^ 31) : (a - b).toInt = m - n := by
  rw [Int32.toInt_sub, ha, hb, Int.bmod_eq_of_le (by omega) (by omega)]

theorem toInt_div_two_eq {a : Int32} {m : Nat} (ha : a.toInt = m) :
    (a / 2).toInt = (m / 2 : Nat) := by
  rw [Int32.toInt_div_of_ne_right a 2 (by decide), ha]
  exact (Int.ofNat_tdiv m 2).symm

theorem toNat_toUInt32_eq {a : Int32} {m : Nat} (ha : a.toInt = m) : a.toUInt32.toNat = m := by
  have hle : 0 ≤ a := by
    rw [Int32.le_iff_toInt_le, ha]
    exact Int.natCast_nonneg m
  rw [Int32.toNat_toUInt32_of_le hle, ← Int32.toNat_toInt, ha, Int.toNat_natCast]

theorem toNat_mul_eq {a b : UInt32} {m n : Nat} (ha : a.toNat = m) (hb : b.toNat = n)
    (h : m * n < 2 ^ 32) : (a * b).toNat = m * n := by
  rw [UInt32.toNat_mul, ha, hb, Nat.mod_eq_of_lt h]

theorem toNat_ofNat_eq {n : Nat} (h : n < 2 ^ 32) : (UInt32.ofNat n).toNat = n :=
  UInt32.toNat_ofNat_of_lt' h

theorem pos_of_ne_zero {value : UInt32} (h : value ≠ 0) : 0 < value.toNat := by
  refine Nat.pos_of_ne_zero fun hzero => h ?_
  exact UInt32.toNat_inj.mp hzero

/-- `& ~1u` clears the low bit. -/
theorem and_not_one_toNat (value : UInt32) : (value &&& ~~~1).toNat = 2 * (value.toNat / 2) := by
  rw [UInt32.toNat_and]
  apply Nat.eq_of_testBit_eq
  intro i
  rw [Nat.testBit_and]
  cases i with
  | zero =>
    have hlow : (~~~1 : UInt32).toNat.testBit 0 = false := by decide
    have heven : (2 * (value.toNat / 2)).testBit 0 = false := by simp
    rw [hlow, heven, Bool.and_false]
  | succ i =>
    rw [Nat.testBit_succ (2 * _), Nat.mul_div_cancel_left _ (by decide), ← Nat.testBit_succ]
    by_cases hi : i + 1 < 32
    · have hones : ∀ i < 31, (~~~1 : UInt32).toNat.testBit (i + 1) = true := by decide
      rw [hones i (by omega), Bool.and_true]
    · have hbound : value.toNat < 2 ^ (i + 1) :=
        lt_of_lt_of_le value.toNat_lt (Nat.pow_le_pow_right (by decide) (by omega))
      rw [Nat.testBit_lt_two_pow hbound, Bool.false_and]

/-- An even number has no low bit to clear. -/
theorem and_not_one {value : UInt32} (h : value.toNat % 2 = 0) : value &&& ~~~1 = value := by
  rw [← UInt32.toNat_inj, and_not_one_toNat]
  omega

end UuAmfBridge
