import Mathlib.AlgebraicGeometry.EllipticCurve.Affine.Point
import Mathlib.Tactic.FieldSimp
import Mathlib.Tactic.LinearCombination

/-! # Complete addition on a short Weierstrass curve

The addition formulas of Renes, Costello and Batina on homogeneous coordinates, for a curve
`y ^ 2 = x ^ 3 + a x + b` with no point of order two. They have no exceptional case: coordinates of
two points, the same or opposite or at infinity, give coordinates of their sum in the group
(`Represents.sum`). The last coordinate of a sum of different points is a cube times the ordinate of
their difference, and the middle one of a sum of opposites a cube times the ordinate of the double,
so that none of the two is zero. -/

namespace EspMid.Lib.Weierstrass

open WeierstrassCurve WeierstrassCurve.Affine

variable {F : Type*} [Field F]

/-- The curve `y ^ 2 = x ^ 3 + a x + b`. -/
def curve (a b : F) : WeierstrassCurve.Affine F := ⟨0, 0, 0, a, b⟩

/-- Homogeneous coordinates. -/
structure Coords (F : Type*) where
  x : F
  y : F
  z : F

/-- No point of order two, and two is not zero. -/
structure NoTwoTorsion (a b : F) : Prop where
  two_ne_zero : (2 : F) ≠ 0
  root : ∀ x : F, x ^ 3 + a * x + b ≠ 0

/-- Coordinates that stand for a point. -/
def Represents {a b : F} (T : Coords F) : (curve a b).Point → Prop
  | .zero => T.x = 0 ∧ T.y ≠ 0 ∧ T.z = 0
  | .some x y _ => T.z ≠ 0 ∧ T.x = x * T.z ∧ T.y = y * T.z

/-- The complete sum. -/
def sum (a b : F) (T S : Coords F) : Coords F :=
  let xy := T.x * S.y + S.x * T.y
  let xz := T.x * S.z + S.x * T.z
  let yz := T.y * S.z + S.y * T.z
  let m := a * xz + 3 * b * (T.z * S.z)
  let s := a * (T.x * S.x) + 3 * b * xz - a ^ 2 * (T.z * S.z)
  let t := 3 * (T.x * S.x) + a * (T.z * S.z)
  ⟨xy * (T.y * S.y - m) - yz * s, (T.y * S.y + m) * (T.y * S.y - m) + t * s,
    yz * (T.y * S.y + m) + xy * t⟩

variable {a b : F}

theorem equation_iff {x y : F} : (curve a b).Equation x y ↔ y ^ 2 = x ^ 3 + a * x + b := by
  rw [Affine.equation_iff]
  simp [curve]

theorem NoTwoTorsion.y_ne_zero (h : NoTwoTorsion a b) {x y : F} (he : (curve a b).Equation x y) :
    y ≠ 0 := by
  rintro rfl
  rw [equation_iff] at he
  exact h.root x (by linear_combination -he)

theorem negY_eq (x y : F) : (curve a b).negY x y = -y := by
  simp [Affine.negY, curve]

theorem sum_smul (c d : F) (T S : Coords F) :
    sum a b ⟨c * T.x, c * T.y, c * T.z⟩ ⟨d * S.x, d * S.y, d * S.z⟩ =
      ⟨(c * d) ^ 2 * (sum a b T S).x, (c * d) ^ 2 * (sum a b T S).y,
        (c * d) ^ 2 * (sum a b T S).z⟩ := by
  simp only [sum, Coords.mk.injEq]
  refine ⟨?_, ?_, ?_⟩ <;> ring

theorem Represents.smul {c : F} (hc : c ≠ 0) {T : Coords F} {P : (curve a b).Point}
    (h : Represents T P) : Represents ⟨c * T.x, c * T.y, c * T.z⟩ P := by
  cases P with
  | zero =>
    obtain ⟨hx, hy, hz⟩ := h
    exact ⟨by simp [hx], mul_ne_zero hc hy, by simp [hz]⟩
  | some x y hP =>
    obtain ⟨hz, hx, hy⟩ := h
    exact ⟨mul_ne_zero hc hz, by simp only [hx]; ring, by simp only [hy]; ring⟩

theorem Represents.of_smul {c : F} (hc : c ≠ 0) {T : Coords F} {P : (curve a b).Point}
    (h : Represents ⟨c * T.x, c * T.y, c * T.z⟩ P) : Represents T P := by
  have hinv := h.smul (inv_ne_zero hc)
  simp only [inv_mul_cancel_left₀ hc] at hinv
  exact hinv

theorem addX_eq (x₁ x₂ l : F) : (curve a b).addX x₁ x₂ l = l ^ 2 - x₁ - x₂ := by
  simp [Affine.addX, curve]

theorem addY_eq (x₁ x₂ y₁ l : F) :
    (curve a b).addY x₁ x₂ y₁ l = l * (x₁ - (l ^ 2 - x₁ - x₂)) - y₁ := by
  rw [Affine.addY, negY_eq, Affine.negAddY, addX_eq]
  ring

theorem NoTwoTorsion.ne_negY (h : NoTwoTorsion a b) {x₁ y₁ : F}
    (h₁ : (curve a b).Equation x₁ y₁) :
    y₁ ≠ (curve a b).negY x₁ y₁ := by
  rw [negY_eq]
  intro heq
  exact mul_ne_zero h.two_ne_zero (h.y_ne_zero h₁) (by linear_combination heq)

/-! ### Coordinates and points -/

theorem Represents.neg {T : Coords F} {P : (curve a b).Point} (hT : Represents T P) :
    Represents ⟨T.x, -T.y, T.z⟩ (-P) := by
  cases P with
  | zero => exact ⟨hT.1, neg_ne_zero.mpr hT.2.1, hT.2.2⟩
  | some x y hP =>
    obtain ⟨hz, hx, hy⟩ := hT
    refine ⟨hz, hx, ?_⟩
    rw [negY_eq]
    simp only [hy, neg_mul]

theorem Represents.unique {T : Coords F} {P Q : (curve a b).Point} (hP : Represents T P)
    (hQ : Represents T Q) : P = Q := by
  cases P with
  | zero =>
    cases Q with
    | zero => rfl
    | some x y h => exact absurd hP.2.2 hQ.1
  | some x y h =>
    cases Q with
    | zero => exact absurd hQ.2.2 hP.1
    | some x' y' h' =>
      obtain rfl : x = x' := mul_right_cancel₀ hP.1 (hP.2.1.symm.trans hQ.2.1)
      obtain rfl : y = y' := mul_right_cancel₀ hP.1 (hP.2.2.symm.trans hQ.2.2)
      rfl

theorem Represents.equation {T : Coords F} {P : (curve a b).Point} (hT : Represents T P) :
    T.y ^ 2 * T.z = T.x ^ 3 + a * T.x * T.z ^ 2 + b * T.z ^ 3 := by
  cases P with
  | zero =>
    rw [hT.1, hT.2.2]
    ring
  | some x y h =>
    have he := equation_iff.mp h.1
    rw [hT.2.1, hT.2.2]
    linear_combination T.z ^ 3 * he

/-! ### Two affine points -/

section Affine

variable {x₁ y₁ x₂ y₂ x y : F}

/-- The last coordinate is the cube of `x₁ - x₂` times the ordinate of the negated difference. -/
theorem sum_z (h₁ : y₁ ^ 2 = x₁ ^ 3 + a * x₁ + b) (h₂ : y₂ ^ 2 = x₂ ^ 3 + a * x₂ + b) :
    (sum a b ⟨x₁, y₁, 1⟩ ⟨x₂, y₂, 1⟩).z = y₁ * (x₁ - x₂) ^ 3 +
      (y₁ + y₂) * ((y₁ + y₂) ^ 2 - (2 * x₁ + x₂) * (x₁ - x₂) ^ 2) := by
  obtain rfl : b = y₁ ^ 2 - x₁ ^ 3 - a * x₁ := by linear_combination -h₁
  have hd : a * (x₁ - x₂) = y₁ ^ 2 - y₂ ^ 2 - x₁ ^ 3 + x₂ ^ 3 := by linear_combination h₂
  simp only [sum]
  linear_combination (-2 * y₁ - y₂) * hd

theorem sum_x (h₁ : y₁ ^ 2 = x₁ ^ 3 + a * x₁ + b) (h₂ : y₂ ^ 2 = x₂ ^ 3 + a * x₂ + b) :
    (x₁ - x₂) ^ 2 * (sum a b ⟨x₁, y₁, 1⟩ ⟨x₂, y₂, 1⟩).x =
      ((y₁ - y₂) ^ 2 - (x₁ + x₂) * (x₁ - x₂) ^ 2) *
        (sum a b ⟨x₁, y₁, 1⟩ ⟨x₂, y₂, 1⟩).z := by
  obtain rfl : b = y₁ ^ 2 - x₁ ^ 3 - a * x₁ := by linear_combination -h₁
  have hd : a * (x₁ - x₂) = y₁ ^ 2 - y₂ ^ 2 - x₁ ^ 3 + x₂ ^ 3 := by linear_combination h₂
  simp only [sum]
  linear_combination
    (3 * x₁ ^ 3 * y₂ + 3 * x₁ ^ 2 * x₂ * y₁ - 3 * x₁ ^ 2 * x₂ * y₂ - 3 * x₁ * x₂ ^ 2 * y₁ + x₁
      * y₁ * a + x₁ * y₂ * a - x₂ * y₁ * a - x₂ * y₂ * a + 3 * y₁ ^ 3 - 2 * y₁ ^ 2 * y₂ - y₁ *
      y₂ ^ 2) * hd

theorem sum_y (h₁ : y₁ ^ 2 = x₁ ^ 3 + a * x₁ + b) (h₂ : y₂ ^ 2 = x₂ ^ 3 + a * x₂ + b) :
    (x₁ - x₂) ^ 3 * (sum a b ⟨x₁, y₁, 1⟩ ⟨x₂, y₂, 1⟩).y =
      ((y₁ - y₂) * (x₁ * (x₁ - x₂) ^ 2 - ((y₁ - y₂) ^ 2 - (x₁ + x₂) * (x₁ - x₂) ^ 2)) -
        y₁ * (x₁ - x₂) ^ 3) * (sum a b ⟨x₁, y₁, 1⟩ ⟨x₂, y₂, 1⟩).z := by
  obtain rfl : b = y₁ ^ 2 - x₁ ^ 3 - a * x₁ := by linear_combination -h₁
  have hd : a * (x₁ - x₂) = y₁ ^ 2 - y₂ ^ 2 - x₁ ^ 3 + x₂ ^ 3 := by linear_combination h₂
  simp only [sum]
  linear_combination
    (-9 * x₁ ^ 6 + 18 * x₁ ^ 5 * x₂ - 9 * x₁ ^ 4 * x₂ ^ 2 - 6 * x₁ ^ 4 * a + 12 * x₁ ^ 3 * x₂ *
      a + 12 * x₁ ^ 3 * y₁ ^ 2 - 3 * x₁ ^ 3 * y₁ * y₂ + 3 * x₁ ^ 3 * y₂ ^ 2 - 6 * x₁ ^ 2 * x₂ ^
      2 * a - 27 * x₁ ^ 2 * x₂ * y₁ ^ 2 + 6 * x₁ ^ 2 * x₂ * y₁ * y₂ - 3 * x₁ ^ 2 * x₂ * y₂ ^ 2 -
      x₁ ^ 2 * a ^ 2 + 15 * x₁ * x₂ ^ 2 * y₁ ^ 2 - 3 * x₁ * x₂ ^ 2 * y₁ * y₂ + 2 * x₁ * x₂ * a ^
      2 - x₁ * y₁ ^ 2 * a + x₁ * y₂ ^ 2 * a - x₂ ^ 2 * a ^ 2 + x₂ * y₁ ^ 2 * a - x₂ * y₂ ^ 2 * a
      - 3 * y₁ ^ 4 + 5 * y₁ ^ 3 * y₂ - y₁ ^ 2 * y₂ ^ 2 - y₁ * y₂ ^ 3) * hd

/-- A point with itself: the tangent's slope is `(3 x ^ 2 + a) / (2 y)`. -/
theorem sum_self (h : y ^ 2 = x ^ 3 + a * x + b) :
    (sum a b ⟨x, y, 1⟩ ⟨x, y, 1⟩).z = 8 * y ^ 3 ∧
      4 * y ^ 2 * (sum a b ⟨x, y, 1⟩ ⟨x, y, 1⟩).x =
        ((3 * x ^ 2 + a) ^ 2 - 8 * x * y ^ 2) * (8 * y ^ 3) ∧
      (sum a b ⟨x, y, 1⟩ ⟨x, y, 1⟩).y =
        (3 * x ^ 2 + a) * (12 * x * y ^ 2 - (3 * x ^ 2 + a) ^ 2) - 8 * y ^ 4 := by
  obtain rfl : b = y ^ 2 - x ^ 3 - a * x := by linear_combination -h
  simp only [sum]
  refine ⟨?_, ?_, ?_⟩ <;> ring

theorem sum_neg (h : y ^ 2 = x ^ 3 + a * x + b) :
    (sum a b ⟨x, y, 1⟩ ⟨x, -y, 1⟩).x = 0 ∧ (sum a b ⟨x, y, 1⟩ ⟨x, -y, 1⟩).z = 0 ∧
      (sum a b ⟨x, y, 1⟩ ⟨x, -y, 1⟩).y =
        (3 * x ^ 2 + a) * (12 * x * y ^ 2 - (3 * x ^ 2 + a) ^ 2) - 8 * y ^ 4 := by
  obtain rfl : b = y ^ 2 - x ^ 3 - a * x := by linear_combination -h
  simp only [sum]
  refine ⟨?_, ?_, ?_⟩ <;> ring

end Affine

/-! ### The sum in the group -/

variable [DecidableEq F] {x₁ y₁ x₂ y₂ : F}

/-- Different points have a sum that is not at infinity. -/
theorem sum_z_ne_zero (h : NoTwoTorsion a b) (h₁ : (curve a b).Equation x₁ y₁)
    (h₂ : (curve a b).Equation x₂ y₂) (hx : x₁ ≠ x₂) :
    (sum a b ⟨x₁, y₁, 1⟩ ⟨x₂, y₂, 1⟩).z ≠ 0 := by
  have hd : x₁ - x₂ ≠ 0 := sub_ne_zero.mpr hx
  have hneg : (curve a b).Equation x₂ (-y₂) := by
    rw [equation_iff] at h₂ ⊢
    rw [neg_sq, h₂]
  have hdiff := equation_add h₁ hneg fun hxy => hx hxy.1
  have hy := h.y_ne_zero hdiff
  rw [slope_of_X_ne hx, addY_eq, sub_neg_eq_add] at hy
  rw [sum_z (equation_iff.mp h₁) (equation_iff.mp h₂)]
  intro hzero
  refine hy ?_
  have hl : (y₁ + y₂) / (x₁ - x₂) * (x₁ - x₂) = y₁ + y₂ := div_mul_cancel₀ _ hd
  generalize (y₁ + y₂) / (x₁ - x₂) = l at hl ⊢
  refine (mul_eq_zero.mp (?_ : (x₁ - x₂) ^ 3 * _ = 0)).resolve_left (pow_ne_zero 3 hd)
  rw [← hl] at hzero
  linear_combination -hzero

theorem represents_sum_of_ne (h : NoTwoTorsion a b) (h₁ : (curve a b).Nonsingular x₁ y₁)
    (h₂ : (curve a b).Nonsingular x₂ y₂) (hx : x₁ ≠ x₂) :
    Represents (sum a b ⟨x₁, y₁, 1⟩ ⟨x₂, y₂, 1⟩) (Point.some x₁ y₁ h₁ + Point.some x₂ y₂ h₂) := by
  have hd : x₁ - x₂ ≠ 0 := sub_ne_zero.mpr hx
  have hsx := sum_x (equation_iff.mp h₁.1) (equation_iff.mp h₂.1)
  have hsy := sum_y (equation_iff.mp h₁.1) (equation_iff.mp h₂.1)
  rw [Point.add_of_X_ne hx]
  refine ⟨sum_z_ne_zero h h₁.1 h₂.1 hx, ?_, ?_⟩
  · rw [slope_of_X_ne hx, addX_eq]
    have hl : (y₁ - y₂) / (x₁ - x₂) * (x₁ - x₂) = y₁ - y₂ := div_mul_cancel₀ _ hd
    generalize (y₁ - y₂) / (x₁ - x₂) = l at hl ⊢
    refine mul_left_cancel₀ (pow_ne_zero 2 hd) ?_
    rw [hsx, ← hl]
    ring
  · rw [slope_of_X_ne hx, addY_eq]
    have hl : (y₁ - y₂) / (x₁ - x₂) * (x₁ - x₂) = y₁ - y₂ := div_mul_cancel₀ _ hd
    generalize (y₁ - y₂) / (x₁ - x₂) = l at hl ⊢
    refine mul_left_cancel₀ (pow_ne_zero 3 hd) ?_
    rw [hsy, ← hl]
    ring

theorem slope_self (h : NoTwoTorsion a b) (h₁ : (curve a b).Equation x₁ y₁) :
    (curve a b).slope x₁ x₁ y₁ y₁ * (2 * y₁) = 3 * x₁ ^ 2 + a := by
  have h2 : 2 * y₁ ≠ 0 := mul_ne_zero h.two_ne_zero (h.y_ne_zero h₁)
  rw [slope_of_Y_ne rfl (h.ne_negY h₁), negY_eq, sub_neg_eq_add, ← two_mul, div_mul_cancel₀ _ h2]
  simp [curve]

theorem represents_sum_self (h : NoTwoTorsion a b) (h₁ : (curve a b).Nonsingular x₁ y₁) :
    Represents (sum a b ⟨x₁, y₁, 1⟩ ⟨x₁, y₁, 1⟩) (Point.some x₁ y₁ h₁ + Point.some x₁ y₁ h₁) := by
  have hy := h.y_ne_zero h₁.1
  have h2 := h.two_ne_zero
  have h8 : (8 : F) ≠ 0 := by
    rw [show (8 : F) = 2 ^ 3 by norm_num]
    exact pow_ne_zero 3 h2
  have h4 : (4 : F) ≠ 0 := by
    rw [show (4 : F) = 2 ^ 2 by norm_num]
    exact pow_ne_zero 2 h2
  obtain ⟨hz, hsx, hsy⟩ := sum_self (equation_iff.mp h₁.1)
  have hslope := slope_self h h₁.1
  rw [Point.add_self_of_Y_ne (h.ne_negY h₁.1)]
  refine ⟨?_, ?_, ?_⟩
  · rw [hz]
    exact mul_ne_zero h8 (pow_ne_zero 3 hy)
  · rw [addX_eq, hz]
    refine mul_left_cancel₀ (mul_ne_zero h4 (pow_ne_zero 2 hy)) ?_
    rw [hsx, ← hslope]
    ring
  · rw [addY_eq, hz, hsy, ← hslope]
    ring

theorem represents_sum_neg (h : NoTwoTorsion a b) (h₁ : (curve a b).Nonsingular x₁ y₁)
    (h₂ : (curve a b).Nonsingular x₁ (-y₁)) :
    Represents (sum a b ⟨x₁, y₁, 1⟩ ⟨x₁, -y₁, 1⟩) (Point.some x₁ y₁ h₁ + Point.some x₁ (-y₁) h₂) := by
  have hy := h.y_ne_zero h₁.1
  obtain ⟨hsx, hsz, hsy⟩ := sum_neg (equation_iff.mp h₁.1)
  rw [Point.add_of_Y_eq rfl (by rw [negY_eq, neg_neg])]
  refine ⟨hsx, ?_, hsz⟩
  -- the ordinate of the double is not zero
  have hdouble := h.y_ne_zero (equation_add h₁.1 h₁.1 fun hxy => h.ne_negY h₁.1 hxy.2)
  have hslope := slope_self h h₁.1
  rw [addY_eq] at hdouble
  rw [hsy, ← hslope]
  intro hzero
  have h8 : (8 : F) ≠ 0 := by
    rw [show (8 : F) = 2 ^ 3 by norm_num]
    exact pow_ne_zero 3 h.two_ne_zero
  refine hdouble ((mul_eq_zero.mp (?_ : 8 * y₁ ^ 3 * _ = 0)).resolve_left
    (mul_ne_zero h8 (pow_ne_zero 3 hy)))
  linear_combination hzero

theorem represents_sum_affine (h : NoTwoTorsion a b) (h₁ : (curve a b).Nonsingular x₁ y₁)
    (h₂ : (curve a b).Nonsingular x₂ y₂) :
    Represents (sum a b ⟨x₁, y₁, 1⟩ ⟨x₂, y₂, 1⟩) (Point.some x₁ y₁ h₁ + Point.some x₂ y₂ h₂) := by
  by_cases hx : x₁ = x₂
  · obtain rfl := hx
    obtain hy | hy := Y_eq_of_X_eq h₁.1 h₂.1 rfl
    · obtain rfl := hy
      exact represents_sum_self h h₁
    · rw [negY_eq] at hy
      obtain rfl : y₂ = -y₁ := by rw [hy, neg_neg]
      exact represents_sum_neg h h₁ h₂
  · exact represents_sum_of_ne h h₁ h₂ hx

/-- **The addition is complete.** Coordinates of any two points give coordinates of their sum. -/
theorem Represents.sum (h : NoTwoTorsion a b) {T S : Coords F} {P Q : (curve a b).Point}
    (hT : Represents T P) (hS : Represents S Q) : Represents (sum a b T S) (P + Q) := by
  obtain ⟨tx, ty, tz⟩ := T
  obtain ⟨sx, sy, sz⟩ := S
  cases P with
  | zero =>
    obtain ⟨hx, hy, hz⟩ := hT
    simp only at hx hy hz
    obtain rfl := hx
    obtain rfl := hz
    rw [← Point.zero_def, zero_add]
    have hscale : Weierstrass.sum a b ⟨0, ty, 0⟩ ⟨sx, sy, sz⟩ =
        ⟨ty ^ 2 * sy * sx, ty ^ 2 * sy * sy, ty ^ 2 * sy * sz⟩ := by
      simp only [Weierstrass.sum, Coords.mk.injEq]
      refine ⟨?_, ?_, ?_⟩ <;> ring
    have hsy : sy ≠ 0 := by
      cases Q with
      | zero => exact hS.2.1
      | some x y hQ =>
        obtain ⟨hz, -, hy'⟩ := hS
        simp only at hz hy'
        rw [hy']
        exact mul_ne_zero (h.y_ne_zero hQ.1) hz
    rw [hscale]
    exact hS.smul (mul_ne_zero (pow_ne_zero 2 hy) hsy)
  | some x y hP =>
    obtain ⟨hz, hx, hy⟩ := hT
    simp only at hx hy hz
    obtain rfl := hx
    obtain rfl := hy
    cases Q with
    | zero =>
      obtain ⟨hx', hy', hz'⟩ := hS
      simp only at hx' hy' hz'
      obtain rfl := hx'
      obtain rfl := hz'
      rw [← Point.zero_def, add_zero]
      have hscale : Weierstrass.sum a b ⟨x * tz, y * tz, tz⟩ ⟨0, sy, 0⟩ =
          ⟨sy ^ 2 * (y * tz) * (x * tz), sy ^ 2 * (y * tz) * (y * tz), sy ^ 2 * (y * tz) * tz⟩ := by
        simp only [Weierstrass.sum, Coords.mk.injEq]
        refine ⟨?_, ?_, ?_⟩ <;> ring
      rw [hscale]
      exact Represents.smul (T := ⟨x * tz, y * tz, tz⟩)
        (mul_ne_zero (pow_ne_zero 2 hy') (mul_ne_zero (h.y_ne_zero hP.1) hz)) ⟨hz, rfl, rfl⟩
    | some x' y' hQ =>
      obtain ⟨hz', hx', hy'⟩ := hS
      simp only at hx' hy' hz'
      obtain rfl := hx'
      obtain rfl := hy'
      have hscale := sum_smul (a := a) (b := b) tz sz ⟨x, y, 1⟩ ⟨x', y', 1⟩
      simp only [mul_one] at hscale
      rw [mul_comm x, mul_comm y, mul_comm x', mul_comm y', hscale]
      exact (represents_sum_affine h hP hQ).smul (pow_ne_zero 2 (mul_ne_zero hz hz'))

end EspMid.Lib.Weierstrass
