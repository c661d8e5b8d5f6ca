import EspMid.P256.Encoding

/-! # Secrets and points

What scalars do to points: the public keys of two scalars are the same only if the scalars are, and
only the scalar zero has the point at infinity (`publicKey_inj`, `publicKey_infinity`); the sum of
two scalars gives the sum of the points (`mulByGenerator_add`), and two parties agree on a secret
(`diffieHellman_comm`). Every point is a multiple of the generator (`existsUnique_secret`). -/

namespace EspMid.P256.Keys

open EspMid.Model.Affine EspMid.Model.BaseField EspMid.Model.Curve EspMid.Model.PointArithmetic
open EspMid.Model.Projective EspMid.Model.ScalarField EspMid.P256.BaseField
open EspMid.P256.Curve (Point generator curveFor order_generator)
open EspMid.P256.CompleteAddition
open EspMid.P256.Field EspMid.P256.Group EspMid.P256.Points EspMid.P256.Primes

variable {P P' : ProjectivePoint FieldElement} {Q Q' : Point}

/-! ### Scalars act on the points -/

theorem val_lt (k : Scalar) : k.val < 2 ^ 256 := k.lt.trans n_lt

/-- **A multiply by a scalar** is the action of its residue. -/
theorem stands_smul (h : Stands toZMod P Q) (k : Scalar) :
    Stands toZMod (mul NistP256 P k.val) (ScalarField.toZMod k • Q) := by
  rw [ScalarField.toZMod, cast_smul]
  exact stands_mul h (val_lt k)

theorem stands_generator (k : Scalar) :
    Stands toZMod (mulByGenerator NistP256 k.val) (ScalarField.toZMod k • generator) := by
  rw [ScalarField.toZMod, cast_smul]
  exact stands_mulByGenerator (val_lt k)

theorem toAffine_generator (k : Scalar) :
    toAffine FieldElement.invert (mulByGenerator NistP256 k.val) =
      affine (ScalarField.toZMod k • generator) := toAffine_eq (stands_generator k)

theorem smul_generator_injective : Function.Injective fun r : ZMod n => r • generator := by
  intro r r' h
  simp only at h
  rw [← ZMod.natCast_zmod_val r, ← ZMod.natCast_zmod_val r', cast_smul, cast_smul] at h
  have hmod := nsmul_inj_mod.mp h
  rw [order_generator, Nat.mod_eq_of_lt (ZMod.val_lt r), Nat.mod_eq_of_lt (ZMod.val_lt r')] at hmod
  exact ZMod.val_injective n hmod

theorem smul_generator_eq_zero {r : ZMod n} : r • generator = 0 ↔ r = 0 := by
  rw [← zero_smul (ZMod n) generator]
  exact smul_generator_injective.eq_iff

/-! ### Public keys -/

/-- **A public key** has one secret. -/
theorem publicKey_inj (d e : Scalar) :
    toAffine FieldElement.invert (mulByGenerator NistP256 d.val) =
      toAffine FieldElement.invert (mulByGenerator NistP256 e.val) ↔ d = e := by
  rw [toAffine_generator, toAffine_generator, affine_injective.eq_iff,
    smul_generator_injective.eq_iff, ScalarField.toZMod_injective.eq_iff]

/-- **No secret** has the point at infinity for a public key. -/
theorem publicKey_infinity (d : Scalar) :
    (toAffine FieldElement.invert (mulByGenerator NistP256 d.val)).infinity = true ↔ d = 0 := by
  have hinf : ∀ Q : Point, (affine Q).infinity = true ↔ Q = 0 := by
    intro Q
    cases Q with
    | zero => exact iff_of_true rfl rfl
    | some x y h => exact iff_of_false Bool.false_ne_true nofun
  rw [toAffine_generator, hinf, smul_generator_eq_zero, ← ScalarField.toZMod_zero,
    ScalarField.toZMod_injective.eq_iff]

/-- **The sum of two scalars**, past the order too, gives the sum of the points. -/
theorem mulByGenerator_add (d e : Scalar) :
    toAffine FieldElement.invert (mulByGenerator NistP256 (d + e).val) =
      toAffine FieldElement.invert
        (add NistP256 (mulByGenerator NistP256 d.val) (mulByGenerator NistP256 e.val)) := by
  rw [toAffine_generator, ScalarField.toZMod_add, add_smul,
    toAffine_eq ((stands_generator d).add curveFor (stands_generator e))]

theorem stands_affine (Q : Point) : Stands toZMod (ofAffine (affine Q)) Q :=
  stands_ofAffine (standsAffine_affine Q)

/-- **Two parties agree** on the multiple of each other's public key. -/
theorem diffieHellman_comm (d e : Scalar) :
    toAffine FieldElement.invert (mul NistP256
        (ofAffine (toAffine FieldElement.invert (mulByGenerator NistP256 e.val))) d.val) =
      toAffine FieldElement.invert (mul NistP256
        (ofAffine (toAffine FieldElement.invert (mulByGenerator NistP256 d.val))) e.val) := by
  rw [toAffine_generator, toAffine_generator, toAffine_eq (stands_smul (stands_affine _) d),
    toAffine_eq (stands_smul (stands_affine _) e), smul_comm]

/-! ### What a signature keeps of a point -/

/-- The abscissa of the affine form, as a scalar. -/
def xScalar (P : ProjectivePoint FieldElement) : Scalar :=
  Scalar.reduceBytes (toRepr (toAffine FieldElement.invert P).x)

/-- The abscissa of a point in the field of scalars. -/
noncomputable def coordinate (Q : Point) : ZMod n := ((toZMod (affine Q).x).val : ZMod n)

theorem toZMod_reduceBytes (x : FieldElement) :
    ScalarField.toZMod (Scalar.reduceBytes (toRepr x)) = ((toZMod x).val : ZMod n) := by
  rw [Scalar.reduceBytes, ScalarField.toZMod_reduce, Encoding.toList_toRepr, Encoding.toBytes_eq,
    EspMid.Lib.BigEndian.toNat_ofNat_of_lt ((ZMod.val_lt _).trans Encoding.p_lt_bytes)]

theorem toZMod_xScalar (h : Stands toZMod P Q) :
    ScalarField.toZMod (xScalar P) = coordinate Q := by
  rw [xScalar, toZMod_reduceBytes, toAffine_eq h, coordinate]

theorem toZMod_xScalar_lincomb (h : Stands toZMod P Q) (u v : Scalar) :
    ScalarField.toZMod (xScalar (add NistP256
        (mul NistP256 (ProjectivePoint.GENERATOR NistP256) u.val) (mul NistP256 P v.val))) =
      coordinate (ScalarField.toZMod u • generator + ScalarField.toZMod v • Q) :=
  toZMod_xScalar (Stands.add curveFor (stands_smul stands_GENERATOR u) (stands_smul h v))

theorem coordinate_neg (Q : Point) : coordinate (-Q) = coordinate Q := by
  rw [coordinate, ← Encoding.neg_affine, Model.Affine.neg, coordinate]

/-! ### Every point has a secret -/

theorem exists_multiple (Q : Point) : ∃ d : Scalar, ScalarField.toZMod d • generator = Q := by
  have hcard : Nat.card (ZMod n) = Nat.card Point := by rw [Nat.card_zmod, card_point]
  have : Finite Point := Nat.finite_of_card_ne_zero (card_point ▸ prime_n.ne_zero)
  have hbij := smul_generator_injective.bijective_of_nat_card_le hcard.ge
  obtain ⟨r, hr⟩ := hbij.2 Q
  obtain ⟨d, rfl⟩ := ScalarField.toZMod_surjective r
  exact ⟨d, hr⟩

/-- **Every affine point of the curve** is the public key of one secret. -/
theorem existsUnique_secret (Q : Point) : ∃! d : Scalar,
    toAffine FieldElement.invert (mulByGenerator NistP256 d.val) = affine Q := by
  obtain ⟨d, hd⟩ := exists_multiple Q
  refine ⟨d, (toAffine_generator d).trans (congrArg affine hd), fun e he => ?_⟩
  have hsame := affine_injective ((toAffine_generator e).symm.trans he)
  exact ScalarField.toZMod_injective (smul_generator_injective (hsame.trans hd.symm))

/-! ### Two scalars in turn -/

theorem smul_product (Q : Point) {d e k : Scalar} (hk : k = e * d) :
    ScalarField.toZMod k • Q = ScalarField.toZMod e • ScalarField.toZMod d • Q := by
  rw [hk, ScalarField.toZMod_mul]
  exact mul_smul _ _ Q

/-- **Two scalars in turn** give the multiple of their product. -/
theorem mul_mul (h : Stands toZMod P Q) (d e : Scalar) :
    toAffine FieldElement.invert (mul NistP256 (mul NistP256 P d.val) e.val) =
      toAffine FieldElement.invert (mul NistP256 P (e * d).val) := by
  have hd := stands_smul h d
  have hde := stands_smul hd e
  -- a name for the product, which would be evaluated in the statement of `stands_smul`
  obtain ⟨k, hk⟩ : ∃ k, k = e * d := ⟨_, rfl⟩
  have hprod := stands_smul h k
  rw [← hk, toAffine_eq hde, toAffine_eq hprod, smul_product Q hk]

theorem mul_mul_generator :
    toAffine FieldElement.invert (mul NistP256
        (mul NistP256 (ProjectivePoint.GENERATOR NistP256) Scalar.FRAC_MODULUS_2.val)
        Scalar.FRAC_MODULUS_2.val) =
      toAffine FieldElement.invert (mul NistP256 (ProjectivePoint.GENERATOR NistP256)
        (Scalar.FRAC_MODULUS_2 * Scalar.FRAC_MODULUS_2).val) :=
  mul_mul stands_GENERATOR Scalar.FRAC_MODULUS_2 Scalar.FRAC_MODULUS_2

end EspMid.P256.Keys
