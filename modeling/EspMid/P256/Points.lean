import EspMid.P256.Curve
import EspMid.P256.ScalarField

/-! # Points

The source's operations on projective points are those of the group of the curve. Every multiply,
by windows or by the table, gives the multiple (`stands_mul`, `stands_mulByGenerator`), and
`to_affine` one form for each point (`toAffine_eq`), so that the source's equality of projective
points is the equality of the points (`toAffine_eq_iff`). -/

namespace EspMid.P256.Points

open EspMid.Lib.Weierstrass EspMid.Model.BaseField EspMid.Model.Curve EspMid.Model.PointArithmetic
open EspMid.Model.Projective EspMid.P256.BaseField EspMid.P256.CompleteAddition
open EspMid.P256.Curve (Point generator curveFor standsFor tableFor stand_generator)
open EspMid.P256.Field EspMid.P256.FieldPowers EspMid.P256.Multiply EspMid.P256.Primes

variable {P P' : ProjectivePoint FieldElement} {Q Q' : Point}

/-! ### Multiplies -/

theorem stands_GENERATOR : Stands toZMod (ProjectivePoint.GENERATOR NistP256) generator := by
  refine ⟨?_, ?_, ?_⟩
  · change toZMod 1 ≠ 0
    rw [toZMod_one]
    exact one_ne_zero
  · change toZMod (FieldElement.fromHex _ G_lt.1) = _ * toZMod 1
    rw [Curve.toZMod_fromHex, toZMod_one, mul_one]
  · change toZMod (FieldElement.fromHex _ G_lt.2) = _ * toZMod 1
    rw [Curve.toZMod_fromHex, toZMod_one, mul_one]

/-- **The multiply**, by the table where the point is the generator's constant. -/
theorem stands_mul (h : Stands toZMod P Q) {k : ℕ} (hk : k < 2 ^ 256) :
    Stands toZMod (mul NistP256 P k) (k • Q) := by
  change Stands toZMod (if isGeneratorConstant NistP256 P then _ else _) _
  split_ifs with hG
  · obtain ⟨hx, hy, hz⟩ := of_decide_eq_true hG
    obtain rfl : P = ProjectivePoint.GENERATOR NistP256 := by
      obtain ⟨x, y, z⟩ := P
      obtain rfl : x = _ := hx
      obtain rfl : y = _ := hy
      obtain rfl : z = _ := hz
      rfl
    rw [h.unique stands_GENERATOR]
    exact stands_mulByTable curveFor tableFor hk
  · exact stands_mulWindowed curveFor h hk

/-- **The generator's multiply.** -/
theorem stands_mulByGenerator {k : ℕ} (hk : k < 2 ^ 256) :
    Stands toZMod (mulByGenerator NistP256 k) (k • generator) :=
  stands_mulByTable curveFor tableFor hk

/-! ### The affine form -/

/-- **The inverse** of an element that is not zero. -/
theorem invert_eq (x : FieldElement) :
    x.invert = if toZMod x = 0 then none else some x.invertUnchecked := by
  have hzero : x.isZero = true ↔ toZMod x = 0 := by
    rw [FieldElement.isZero, beq_iff_eq, ← toZMod_injective.eq_iff]
    exact Eq.congr_right toZMod_zero
  unfold FieldElement.invert
  simp only [hzero]

/-- The affine form of a point. -/
noncomputable def affine : Point → AffinePoint FieldElement
  | .zero => identityAffine
  | .some x y _ => ⟨ringEquiv.symm x, ringEquiv.symm y, false⟩

theorem affine_injective : Function.Injective affine := by
  intro Q Q' h
  cases Q with
  | zero =>
    cases Q' with
    | zero => rfl
    | some x y hxy => exact absurd (congrArg AffinePoint.infinity h) (by simp [affine, identityAffine])
  | some x y hxy =>
    cases Q' with
    | zero => exact absurd (congrArg AffinePoint.infinity h) (by simp [affine, identityAffine])
    | some x' y' hxy' =>
      obtain rfl := ringEquiv.symm.injective (congrArg AffinePoint.x h)
      obtain rfl := ringEquiv.symm.injective (congrArg AffinePoint.y h)
      rfl

theorem toZMod_symm (r : ZMod p) : toZMod (ringEquiv.symm r) = r := ringEquiv.apply_symm_apply r

theorem symm_toZMod (x : FieldElement) : ringEquiv.symm (toZMod x) = x :=
  ringEquiv.symm_apply_apply x

theorem standsAffine_affine (Q : Point) : StandsAffine toZMod (affine Q) Q := by
  cases Q with
  | zero => rfl
  | some x y h => exact ⟨rfl, toZMod_symm x, toZMod_symm y⟩

/-- **`to_affine`** is the affine form of the point. -/
theorem toAffine_eq (h : Stands toZMod P Q) : toAffine FieldElement.invert P = affine Q := by
  unfold toAffine
  cases Q with
  | zero =>
    have hz : toZMod P.z = 0 := h.2.2
    rw [invert_eq, if_pos hz]
    rfl
  | some x y hxy =>
    obtain ⟨hz, hx, hy⟩ := h
    simp only [coords] at hz hx hy
    have hinv := toZMod_invertUnchecked P.z
    rw [invert_eq, if_neg hz]
    have hcoord : ∀ {u : FieldElement} {r : ZMod p}, toZMod u = r * toZMod P.z →
        u * P.z.invertUnchecked = ringEquiv.symm r := by
      intro u r hu
      rw [← symm_toZMod (u * _), toZMod_mul, hinv, hu, mul_inv_cancel_right₀ hz]
    simp only [affine, hcoord hx, hcoord hy]

/-- **Equality of projective points**, by their affine forms, is equality of the points. -/
theorem toAffine_eq_iff (h : Stands toZMod P Q) (h' : Stands toZMod P' Q') :
    toAffine FieldElement.invert P = toAffine FieldElement.invert P' ↔ Q = Q' := by
  rw [toAffine_eq h, toAffine_eq h']
  exact affine_injective.eq_iff

theorem stands_ofAffine {A : AffinePoint FieldElement} (h : StandsAffine toZMod A Q) :
    Stands toZMod (ofAffine A) Q := by
  unfold ofAffine
  cases Q with
  | zero =>
    rw [if_pos (show A.infinity = true from h)]
    exact stands_identity standsFor
  | some x y hxy =>
    obtain ⟨hinf, hx, hy⟩ := h
    rw [hinf, if_neg (by decide)]
    refine ⟨?_, ?_, ?_⟩
    · change toZMod 1 ≠ 0
      rw [toZMod_one]
      exact one_ne_zero
    · change toZMod A.x = x * toZMod 1
      rw [hx, toZMod_one, mul_one]
    · change toZMod A.y = y * toZMod 1
      rw [hy, toZMod_one, mul_one]

/-! ### The operations on points -/

/-- **The formulas are complete**: the sum, the mixed sum and the double of any two points, the point
at infinity, equal points and opposite points among them. -/
theorem complete_formulas {A : AffinePoint FieldElement} (h : Stands toZMod P Q)
    (h' : Stands toZMod P' Q') (hA : StandsAffine toZMod A Q') :
    toAffine FieldElement.invert (add NistP256 P P') = affine (Q + Q') ∧
      toAffine FieldElement.invert (addMixed NistP256 P A) = affine (Q + Q') ∧
      toAffine FieldElement.invert (doublePoint NistP256 P) = affine (Q + Q) :=
  ⟨toAffine_eq (h.add curveFor h'), toAffine_eq (h.addMixed curveFor hA),
    toAffine_eq (h.double curveFor)⟩

theorem complete_formulas_generator :
    toAffine FieldElement.invert (add NistP256 (ProjectivePoint.GENERATOR NistP256)
        (ProjectivePoint.GENERATOR NistP256)) = affine (generator + generator) ∧
      toAffine FieldElement.invert (addMixed NistP256 (ProjectivePoint.GENERATOR NistP256)
        (affine generator)) = affine (generator + generator) ∧
      toAffine FieldElement.invert (doublePoint NistP256 (ProjectivePoint.GENERATOR NistP256)) =
        affine (generator + generator) :=
  complete_formulas stands_GENERATOR stands_GENERATOR (standsAffine_affine generator)

/-- **The multiply** of a point by any 256 bits, the generator's own table among its paths. -/
theorem toAffine_mul (h : Stands toZMod P Q) {k : ℕ} (hk : k < 2 ^ 256) :
    toAffine FieldElement.invert (mul NistP256 P k) = affine (k • Q) :=
  toAffine_eq (stands_mul h hk)

theorem toAffine_mul_top :
    toAffine FieldElement.invert (mul NistP256 (ProjectivePoint.GENERATOR NistP256) (2 ^ 256 - 1)) =
      affine ((2 ^ 256 - 1) • generator) :=
  toAffine_mul stands_GENERATOR (by decide)

/-- **The table's multiply agrees** with the windowed one of the generator, for every 256 bits. -/
theorem mulByGenerator_eq_mulWindowed {k : ℕ} (hk : k < 2 ^ 256) :
    toAffine FieldElement.invert (mulByGenerator NistP256 k) =
      toAffine FieldElement.invert
        (mulWindowed NistP256 (ProjectivePoint.GENERATOR NistP256) k) := by
  rw [toAffine_eq (stands_mulByGenerator hk),
    toAffine_eq (stands_mulWindowed curveFor stands_GENERATOR hk)]

theorem mulByGenerator_eq_mulWindowed_top :
    toAffine FieldElement.invert (mulByGenerator NistP256 (2 ^ 256 - 1)) =
      toAffine FieldElement.invert
        (mulWindowed NistP256 (ProjectivePoint.GENERATOR NistP256) (2 ^ 256 - 1)) :=
  mulByGenerator_eq_mulWindowed (by decide)

theorem toAffine_eq_iff_generator :
    toAffine FieldElement.invert (ProjectivePoint.GENERATOR NistP256) =
      toAffine FieldElement.invert (doublePoint NistP256 (ProjectivePoint.GENERATOR NistP256)) ↔
      generator = generator + generator :=
  toAffine_eq_iff stands_GENERATOR (stands_GENERATOR.double curveFor)

theorem eq_affine_of_stands {x y : FieldElement} (h : StandsAffine toZMod ⟨x, y, false⟩ Q) :
    (⟨x, y, false⟩ : AffinePoint FieldElement) = affine Q := by
  cases Q with
  | zero => exact absurd h Bool.false_ne_true
  | some qx qy hq =>
    obtain ⟨-, hx, hy⟩ := h
    simp only at hx hy
    rw [affine, ← hx, ← hy, symm_toZMod, symm_toZMod]

/-- **Every entry of the table**, in row `i` at `j`, is the affine form of `(j + 1) * 32 ^ i` times
the generator. -/
theorem table_entry {i j : ℕ} (hi : i < 52) (hj : j < 16) :
    (⟨((Model.GeneratorTable.GENERATOR_TABLE.getD i []).getD j (0, 0)).1,
      ((Model.GeneratorTable.GENERATOR_TABLE.getD i []).getD j (0, 0)).2, false⟩ :
        AffinePoint FieldElement) = affine (((j + 1) * 32 ^ i) • generator) := by
  have h := tableFor.multiple i hi j hj
  generalize ((j + 1) * 32 ^ i) • generator = Q at h ⊢
  exact eq_affine_of_stands h

theorem table_entry_last :
    (⟨((Model.GeneratorTable.GENERATOR_TABLE.getD 51 []).getD 15 (0, 0)).1,
      ((Model.GeneratorTable.GENERATOR_TABLE.getD 51 []).getD 15 (0, 0)).2, false⟩ :
        AffinePoint FieldElement) = affine (((15 + 1) * 32 ^ 51) • generator) :=
  table_entry (by decide) (by decide)

end EspMid.P256.Points
