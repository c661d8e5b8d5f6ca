import EspMid.Lib.Weierstrass
import EspMid.Model.PointArithmetic

/-! # The formulas add

For field elements that stand for a field, every formula of the source, those for any `a` and those
for `a = -3`, is the complete sum on the coordinates they stand for (`coords_add`, `coords_double`),
so that it computes in the group of the curve (`Stands.add`, `Stands.addMixed`, `Stands.double`). -/

namespace EspMid.P256.CompleteAddition

open EspMid.Lib.Weierstrass EspMid.Model.PointArithmetic

variable {K F : Type} [PrimeField K] [Field F]

/-- Elements that stand for a field, with the operations of the source. -/
structure StandsFor (φ : K → F) : Prop where
  zero : φ 0 = 0
  one : φ 1 = 1
  add : ∀ x y, φ (x + y) = φ x + φ y
  sub : ∀ x y, φ (x - y) = φ x - φ y
  mul : ∀ x y, φ (x * y) = φ x * φ y
  neg : ∀ x, φ (-x) = -φ x
  double : ∀ x, φ (double x) = φ x + φ x
  square : ∀ x, φ (square x) = φ x * φ x
  three : φ (ofU64 3) = 3

/-- The parameters of a curve that stand for `y ^ 2 = x ^ 3 + a x + b`. -/
structure CurveFor (φ : K → F) (C : PrimeCurveParams K) (a b : F) : Prop extends StandsFor φ where
  a_eq : φ C.equationA = a
  b_eq : φ C.equationB = b
  minusThree : C.pointArithmetic = .aIsMinusThree → a = -3
  torsion : NoTwoTorsion a b

variable (φ : K → F)

/-- The coordinates that a projective point stands for. -/
def coords (P : ProjectivePoint K) : Coords F := ⟨φ P.x, φ P.y, φ P.z⟩

variable {φ} {C : PrimeCurveParams K} {a b : F}

/-! ### The formulas -/

/-- **Addition** is the complete sum. -/
theorem coords_add (h : CurveFor φ C a b) (P Q : ProjectivePoint K) :
    coords φ (add C P Q) = sum a b (coords φ P) (coords φ Q) := by
  have hm := h.minusThree
  unfold add
  cases hC : C.pointArithmetic with
  | aIsGeneric =>
    simp only [addGeneric, coords, sum, h.add, h.sub, h.mul, h.a_eq, h.b_eq, h.three,
      Coords.mk.injEq]
    refine ⟨?_, ?_, ?_⟩ <;> ring
  | aIsMinusThree =>
    obtain rfl := hm hC
    simp only [addMinusThree, coords, sum, h.add, h.sub, h.mul, h.double, h.b_eq, Coords.mk.injEq]
    refine ⟨?_, ?_, ?_⟩ <;> ring

/-- **Mixed addition** is the complete sum with a last coordinate of one. -/
theorem coords_addMixed (h : CurveFor φ C a b) (P : ProjectivePoint K) (A : AffinePoint K) :
    coords φ (addMixed C P A) =
      if A.infinity then coords φ P else sum a b (coords φ P) ⟨φ A.x, φ A.y, 1⟩ := by
  have hm := h.minusThree
  unfold addMixed
  cases hC : C.pointArithmetic with
  | aIsGeneric =>
    simp only [addMixedGeneric]
    split_ifs
    · rfl
    · simp only [coords, sum, h.add, h.sub, h.mul, h.a_eq, h.b_eq, h.three, Coords.mk.injEq]
      refine ⟨?_, ?_, ?_⟩ <;> ring
  | aIsMinusThree =>
    obtain rfl := hm hC
    simp only [addMixedMinusThree]
    split_ifs
    · rfl
    · simp only [coords, sum, h.add, h.sub, h.mul, h.double, h.b_eq, Coords.mk.injEq]
      refine ⟨?_, ?_, ?_⟩ <;> ring

/-- **Doubling** is the complete sum of a point on the curve with itself. -/
theorem coords_double (h : CurveFor φ C a b) {P : ProjectivePoint K}
    (he : φ P.y ^ 2 * φ P.z = φ P.x ^ 3 + a * φ P.x * φ P.z ^ 2 + b * φ P.z ^ 3) :
    coords φ (doublePoint C P) = sum a b (coords φ P) (coords φ P) := by
  have hm := h.minusThree
  unfold doublePoint
  cases hC : C.pointArithmetic with
  | aIsGeneric =>
    simp only [doubleGeneric, coords, sum, h.add, h.sub, h.mul, h.a_eq, h.b_eq, h.three,
      Coords.mk.injEq]
    refine ⟨by ring, by ring, ?_⟩
    linear_combination 6 * φ P.y * he
  | aIsMinusThree =>
    obtain rfl := hm hC
    simp only [doubleMinusThree, coords, sum, h.add, h.sub, h.mul, h.double, h.square, h.b_eq,
      Coords.mk.injEq]
    refine ⟨by ring, by ring, ?_⟩
    linear_combination 6 * φ P.y * he

/-! ### In the group -/

variable (φ) in
/-- A projective point that stands for a point of the curve. -/
def Stands (P : ProjectivePoint K) (Q : (curve a b).Point) : Prop := Represents (coords φ P) Q

variable (φ) in
/-- An affine point that stands for a point of the curve. -/
def StandsAffine (A : AffinePoint K) : (curve a b).Point → Prop
  | .zero => A.infinity = true
  | .some x y _ => A.infinity = false ∧ φ A.x = x ∧ φ A.y = y

theorem StandsAffine.neg (h : StandsFor φ) {A : AffinePoint K} {Q : (curve a b).Point}
    (hA : StandsAffine φ A Q) :
    StandsAffine φ ⟨A.x, -A.y, A.infinity⟩ (-Q) := by
  cases Q with
  | zero => exact hA
  | some x y hxy =>
    obtain ⟨hinf, hx, hy⟩ := hA
    refine ⟨hinf, hx, ?_⟩
    rw [h.neg, hy, negY_eq]

variable [DecidableEq F] {P P' : ProjectivePoint K} {Q Q' : (curve a b).Point}

theorem Stands.add (h : CurveFor φ C a b) (hP : Stands φ P Q) (hP' : Stands φ P' Q') :
    Stands φ (add C P P') (Q + Q') := by
  unfold Stands
  rw [coords_add h]
  exact Represents.sum h.torsion hP hP'

theorem Stands.double (h : CurveFor φ C a b) (hP : Stands φ P Q) :
    Stands φ (doublePoint C P) (Q + Q) := by
  unfold Stands
  rw [coords_double h hP.equation]
  exact Represents.sum h.torsion hP hP

theorem Stands.addMixed (h : CurveFor φ C a b) {A : AffinePoint K} (hP : Stands φ P Q)
    (hA : StandsAffine φ A Q') : Stands φ (addMixed C P A) (Q + Q') := by
  unfold Stands
  rw [coords_addMixed h]
  cases Q' with
  | zero =>
    rw [if_pos (show A.infinity = true from hA), ← WeierstrassCurve.Affine.Point.zero_def, add_zero]
    exact hP
  | some x y hxy =>
    obtain ⟨hinf, hx, hy⟩ := hA
    rw [hinf, if_neg (by decide)]
    exact Represents.sum h.torsion hP ⟨one_ne_zero, by simp [hx], by simp [hy]⟩

end EspMid.P256.CompleteAddition
