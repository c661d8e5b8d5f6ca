import Mathlib.Algebra.Order.Ring.Nat
import Mathlib.Tactic.Linarith
import Mathlib.Tactic.Ring

/-! # Division by a reciprocal

The quotient of `a` by `n` from the reciprocal `c * d / n`, after dropping `c` from `a` and `d` from
the product: it is never above the true quotient and at most two below it (`estimate_le`,
`lt_estimate`), so two conditional subtractions finish the reduction (`reduced`). -/

namespace EspMid.Lib.Barrett

variable {c d n a : ℕ}

/-- The quotient by the reciprocal. -/
def estimate (c d n a : ℕ) : ℕ := a / c * (c * d / n) / d

/-- The estimate is not above the quotient. -/
theorem estimate_le (hd : 0 < d) : estimate c d n a * n ≤ a := by
  have hq : a / c * (c * d / n) / d * d ≤ a / c * (c * d / n) := Nat.div_mul_le_self _ _
  have hmu : c * d / n * n ≤ c * d := Nat.div_mul_le_self _ _
  have ha : a / c * c ≤ a := Nat.div_mul_le_self _ _
  refine Nat.le_of_mul_le_mul_right ?_ hd
  calc estimate c d n a * n * d = estimate c d n a * d * n := by ring
    _ ≤ a / c * (c * d / n) * n := Nat.mul_le_mul_right n hq
    _ = a / c * (c * d / n * n) := by ring
    _ ≤ a / c * (c * d) := Nat.mul_le_mul_left _ hmu
    _ = a / c * c * d := by ring
    _ ≤ a * d := Nat.mul_le_mul_right d ha

/-- The estimate is at most two below the quotient. -/
theorem lt_estimate (hc : 0 < c) (hd : 0 < d) (hn : 0 < n) (hcn : c ≤ n) (ha : a < c * d) :
    a < (estimate c d n a + 3) * n := by
  have hq : a / c * (c * d / n) < d * (estimate c d n a + 1) := Nat.lt_mul_div_succ _ hd
  have hmu : c * d < n * (c * d / n + 1) := Nat.lt_mul_div_succ _ hn
  have hac : a < c * (a / c + 1) := Nat.lt_mul_div_succ _ hc
  have hq1 : a / c < d := Nat.div_lt_of_lt_mul ha
  refine Nat.lt_of_mul_lt_mul_right (a := d) ?_
  calc a * d < c * (a / c + 1) * d := Nat.mul_lt_mul_of_pos_right hac hd
    _ = a / c * (c * d) + c * d := by ring
    _ ≤ a / c * (n * (c * d / n + 1)) + n * d :=
        Nat.add_le_add (Nat.mul_le_mul_left _ hmu.le) (Nat.mul_le_mul_right d hcn)
    _ = n * (a / c * (c * d / n)) + n * (a / c) + n * d := by ring
    _ ≤ n * (d * (estimate c d n a + 1)) + n * d + n * d :=
        Nat.add_le_add_right (Nat.add_le_add (Nat.mul_le_mul_left n hq.le)
          (Nat.mul_le_mul_left n hq1.le)) _
    _ = (estimate c d n a + 3) * n * d := by ring

/-- Less `n` when that does not go below zero. -/
def less (n r : ℕ) : ℕ := if r < n then r else r - n

/-- **Two conditional subtractions** of what is below three times the modulus. -/
theorem reduced {r : ℕ} (hr : r < 3 * n) : less n (less n r) = r % n := by
  unfold less
  split_ifs with h1 h2
  · exact (Nat.mod_eq_of_lt h1).symm
  · rw [Nat.mod_eq_sub_mod (by omega), Nat.mod_eq_of_lt h2]
  · rw [Nat.mod_eq_sub_mod (by omega), Nat.mod_eq_sub_mod (by omega), Nat.mod_eq_of_lt (by omega)]

end EspMid.Lib.Barrett
