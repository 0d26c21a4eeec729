import Mathlib.Algebra.Order.Group.Nat
import Mathlib.Tactic.Ring

/-!
# Nearest samples by fixed-point steps

A row of `source` samples is scaled down to a row of `target` samples.  Column `x` of the
target takes column `x * source / target` of the source.  A loop that only adds takes it
from a position that grows by `source * scale / target` for each column, in parts of which
a column has `scale`.

The step is rounded down, so the position falls behind a little more with each column.
With no more columns than parts in a column it falls behind by less than one column
(`le_steppedColumn_succ`), and it is never ahead (`steppedColumn_le`).
-/

namespace UuAmfBridge

/-- The growth of the position for each column. -/
def columnStep (scale source target : Nat) : Nat := source * scale / target

/-- The column of the source that column `x` of the target takes. -/
def steppedColumn (scale source target x : Nat) : Nat :=
  x * columnStep scale source target / scale

variable {scale source target x : Nat}

theorem steppedColumn_mono {y : Nat} (h : x ≤ y) :
    steppedColumn scale source target x ≤ steppedColumn scale source target y :=
  Nat.div_le_div_right (Nat.mul_le_mul_right _ h)

/-- The position behind the last column is no further than the end of the source. -/
theorem position_le (hx : x ≤ target) :
    x * columnStep scale source target ≤ source * scale :=
  calc x * columnStep scale source target
      ≤ target * columnStep scale source target := Nat.mul_le_mul_right _ hx
    _ ≤ source * scale := Nat.mul_div_le _ _

/-- The column is not ahead of the exact one. -/
theorem steppedColumn_le (hscale : 0 < scale) (htarget : 0 < target) :
    steppedColumn scale source target x ≤ x * source / target := by
  rw [Nat.le_div_iff_mul_le htarget]
  apply Nat.le_of_mul_le_mul_right _ hscale
  calc steppedColumn scale source target x * target * scale
      = steppedColumn scale source target x * scale * target := by ring
    _ ≤ x * columnStep scale source target * target :=
        Nat.mul_le_mul_right _ (Nat.div_mul_le_self _ _)
    _ = x * (columnStep scale source target * target) := by ring
    _ ≤ x * (source * scale) := Nat.mul_le_mul_left _ (Nat.div_mul_le_self _ _)
    _ = x * source * scale := by ring

/-- The column is behind the exact one by at most one. -/
theorem le_steppedColumn_succ (htarget : 0 < target) (hx : x ≤ scale) :
    x * source / target ≤ steppedColumn scale source target x + 1 := by
  rcases Nat.eq_zero_or_pos scale with rfl | hscale
  · obtain rfl := Nat.le_zero.mp hx
    simp
  have hstep : source * scale ≤ (columnStep scale source target + 1) * target := by
    rw [Nat.mul_comm _ target]
    exact (Nat.lt_mul_div_succ _ htarget).le
  have hcolumn : x * columnStep scale source target <
      (steppedColumn scale source target x + 1) * scale := by
    rw [Nat.mul_comm _ scale]
    exact Nat.lt_mul_div_succ _ hscale
  have hexact : x * source / target * scale ≤ x * (columnStep scale source target + 1) := by
    apply Nat.le_of_mul_le_mul_right _ htarget
    calc x * source / target * scale * target
        = x * source / target * target * scale := by ring
      _ ≤ x * source * scale := Nat.mul_le_mul_right _ (Nat.div_mul_le_self _ _)
      _ = x * (source * scale) := by ring
      _ ≤ x * ((columnStep scale source target + 1) * target) := Nat.mul_le_mul_left _ hstep
      _ = x * (columnStep scale source target + 1) * target := by ring
  have hbehind : x * source / target * scale <
      (steppedColumn scale source target x + 2) * scale := by
    rw [Nat.mul_add_one] at hexact
    rw [Nat.add_mul] at hcolumn ⊢
    omega
  exact Nat.lt_succ_iff.mp (Nat.lt_of_mul_lt_mul_right hbehind)

/-- The exact column is a column of the source. -/
theorem exactColumn_lt (hsource : 0 < source) (hx : x < target) : x * source / target < source := by
  apply Nat.div_lt_of_lt_mul
  exact Nat.mul_lt_mul_of_pos_right hx hsource

/-- The column is a column of the source. -/
theorem steppedColumn_lt (hscale : 0 < scale) (hsource : 0 < source) (hx : x < target) :
    steppedColumn scale source target x < source :=
  lt_of_le_of_lt (steppedColumn_le hscale (by omega)) (exactColumn_lt hsource hx)

end UuAmfBridge
