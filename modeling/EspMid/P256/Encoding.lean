import EspMid.Model.Affine
import EspMid.P256.Group

/-! # Encoded points

An encoded point is accepted only if it is one of the curve, in its affine form
(`fromCoordinates_sound`), and every point reads back from either of its encodings
(`fromEncodedPoint_toEncodedPoint`). -/

namespace EspMid.P256.Encoding

open EspMid.Lib EspMid.Lib.Words EspMid.Lib.Weierstrass EspMid.Model.Affine EspMid.Model.BaseField
open EspMid.Model.Curve (B NistP256)
open EspMid.Model.PointArithmetic EspMid.Model.Projective EspMid.P256.BaseField EspMid.P256.Curve
open EspMid.P256.Field EspMid.P256.FieldPowers EspMid.P256.Points EspMid.P256.Primes

/-! ### Elements as bytes -/

variable (x : FieldElement)

theorem p_lt_bytes : p < 256 ^ 32 := by decide

theorem toBytes_eq : x.toBytes = BigEndian.ofNat 32 (toZMod x).val := by
  rw [FieldElement.toBytes, toNat_toCanonical]

theorem toList_toRepr : (toRepr x).toList = x.toBytes := rfl

/-- **Bytes are read** where they are below the modulus, and only there. -/
theorem fromRepr_eq_some {bytes : FieldBytes} : fromRepr bytes = some x ↔ toRepr x = bytes := by
  have hrepr : toRepr x = bytes ↔ x.toBytes = bytes.toList := by
    rw [← toList_toRepr]
    exact ⟨fun h => congrArg _ h, fun h => List.Vector.eq _ _ h⟩
  rw [hrepr]
  change FieldElement.fromBytes bytes.toList = some x ↔ _
  have hlen := bytes.toList_length
  generalize bytes.toList = bytes at hlen
  have hlt := BigEndian.toNat_lt bytes
  rw [hlen] at hlt
  have hval : toNat (ofNat 8 (BigEndian.toNat bytes)) = BigEndian.toNat bytes :=
    toNat_ofNat_of_lt (hlt.trans_eq (by norm_num))
  unfold FieldElement.fromBytes FieldElement.fromUint
  constructor
  · intro h
    split_ifs at h with hred
    obtain rfl := Option.some.inj h
    have hp : BigEndian.toNat bytes < p := hval ▸ hred.lt
    rw [toBytes_eq, toZMod_fromUintUnchecked, hval, ZMod.val_natCast_of_lt hp, ← hlen,
      BigEndian.ofNat_toNat]
  · intro h
    have hnum : BigEndian.toNat bytes = (toZMod x).val := by
      rw [← h, toBytes_eq, BigEndian.toNat_ofNat_of_lt ((ZMod.val_lt _).trans p_lt_bytes)]
    have hred : Reduced (ofNat 8 (BigEndian.toNat bytes)) :=
      Reduced.ofNat (hnum ▸ ZMod.val_lt (toZMod x))
    rw [dif_pos hred]
    refine congrArg some (toZMod_injective ?_)
    rw [toZMod_fromUintUnchecked, hval, hnum, ZMod.natCast_zmod_val]

/-- **The parity** is that of the least number. -/
theorem isOdd_eq : x.isOdd = decide ((toZMod x).val % 2 = 1) := by
  have hred : Reduced x.toCanonical := FieldElement.reduced_fromMontgomery x.reduced
  have hne : x.toCanonical ≠ [] := fun h => by
    have := hred.length
    rw [h] at this
    cases this
  have hval := toNat_getD_add hne
  rw [toNat_toCanonical] at hval
  unfold FieldElement.isOdd
  generalize x.toCanonical.getD 0 0 = w at hval
  have hand : (w &&& 1).toNat = w.toNat % 2 := by
    rw [UInt32.toNat_and]
    exact Nat.and_two_pow_sub_one_eq_mod _ 1
  rw [Bool.eq_iff_iff, beq_iff_eq, decide_eq_true_eq, ← UInt32.toNat_inj, hand]
  change w.toNat % 2 = 1 ↔ _
  omega

theorem lastByte_eq (y : FieldElement) : (y.toBytes.getLastD 0 &&& 1 == 1) = y.isOdd := by
  have hlast : y.toBytes.getLastD 0 = UInt8.ofNat (toZMod y).val := by
    rw [toBytes_eq, BigEndian.ofNat, List.getLastD_concat]
  have hand : (UInt8.ofNat (toZMod y).val &&& 1).toNat = (toZMod y).val % 2 := by
    rw [UInt8.toNat_and, UInt8.toNat_ofNat']
    change _ &&& 2 ^ 1 - 1 = _
    rw [Nat.and_two_pow_sub_one_eq_mod]
    omega
  rw [hlast, isOdd_eq, Bool.eq_iff_iff, beq_iff_eq, decide_eq_true_eq, ← UInt8.toNat_inj, hand]
  rfl

/-! ### Decompression -/

theorem toZMod_cubic :
    toZMod (cubic NistP256 x) = toZMod x ^ 3 + (A : ZMod p) * toZMod x + (B : ZMod p) := by
  change toZMod (x * x * x + NistP256.equationA * x + NistP256.equationB) = _
  rw [toZMod_add, toZMod_add, toZMod_mul, toZMod_mul, toZMod_mul, curveFor.a_eq, curveFor.b_eq]
  ring

theorem eq_affine {x y : FieldElement} (h : y * y = cubic NistP256 x) :
    ∃ Q : Point, Q ≠ 0 ∧ (⟨x, y, false⟩ : AffinePoint FieldElement) = affine Q := by
  have he : (curve (A : ZMod p) (B : ZMod p)).Equation (toZMod x) (toZMod y) := by
    rw [equation_iff, ← toZMod_cubic, ← h, toZMod_mul, pow_two]
  refine ⟨.some _ _ (nonsingular he), nofun, ?_⟩
  simp only [affine, symm_toZMod]

theorem affine_cases {Q : Point} (hQ : Q ≠ 0) :
    ∃ x y : FieldElement, affine Q = ⟨x, y, false⟩ ∧ y * y = cubic NistP256 x := by
  cases Q with
  | zero => exact absurd rfl hQ
  | some qx qy hq =>
    refine ⟨_, _, rfl, toZMod_injective ?_⟩
    rw [toZMod_mul, toZMod_cubic, toZMod_symm, toZMod_symm, ← pow_two]
    exact equation_iff.mp hq.1

theorem ordinate_ne_zero {x y : FieldElement} (h : y * y = cubic NistP256 x) : toZMod y ≠ 0 := by
  intro h0
  have hroot := toZMod_cubic x
  rw [← h, toZMod_mul, h0, mul_zero] at hroot
  exact noTwoTorsion.root _ hroot.symm

theorem isOdd_neg {y : FieldElement} (hy : toZMod y ≠ 0) : (-y).isOdd = !y.isOdd := by
  rw [isOdd_eq, isOdd_eq, toZMod_neg, Bool.eq_iff_iff, decide_eq_true_eq, Group.val_neg_odd hy,
    Bool.not_eq_true', decide_eq_false_iff_not]

theorem neg_mul_neg_self (y : FieldElement) : -y * -y = y * y := by
  apply toZMod_injective
  rw [toZMod_mul, toZMod_neg, toZMod_mul, neg_mul_neg]

/-- **Decompression** gives the one point with the abscissa and the parity, if there is one. -/
theorem decompress_eq_some {xBytes : FieldBytes} {odd : Bool} {A : AffinePoint FieldElement} :
    decompress NistP256 xBytes odd = some A ↔
      ∃ Q : Point, Q ≠ 0 ∧ A = affine Q ∧ toRepr A.x = xBytes ∧ A.y.isOdd = odd := by
  unfold decompress
  simp only [Option.bind_eq_some_iff, Option.map_eq_some_iff]
  constructor
  · rintro ⟨x, hx, beta, hbeta, rfl⟩
    have hroot : beta * beta = cubic NistP256 x := (sqrt_spec _).1 beta hbeta
    have hbytes := (fromRepr_eq_some x).mp hx
    by_cases hodd : isOdd beta = odd
    · obtain ⟨Q, hQ, hA⟩ := eq_affine hroot
      rw [if_pos (beq_iff_eq.mpr hodd)]
      exact ⟨Q, hQ, hA, hbytes, hodd⟩
    · obtain ⟨Q, hQ, hA⟩ := eq_affine ((neg_mul_neg_self beta).trans hroot)
      rw [if_neg (mt beq_iff_eq.mp hodd)]
      refine ⟨Q, hQ, hA, hbytes, ?_⟩
      change (-beta).isOdd = odd
      rw [isOdd_neg (ordinate_ne_zero hroot)]
      change beta.isOdd ≠ odd at hodd
      rw [Bool.not_eq]
      exact hodd
  · rintro ⟨Q, hQ, rfl, hx, hodd⟩
    obtain ⟨x, y, hA, hroot⟩ := affine_cases hQ
    rw [hA] at hx hodd ⊢
    simp only at hx hodd
    have hsome : (FieldElement.sqrt (cubic NistP256 x)).isSome :=
      (sqrt_spec _).2.mpr ⟨toZMod y, by rw [← toZMod_mul, hroot]⟩
    obtain ⟨beta, hbeta⟩ := Option.isSome_iff_exists.mp hsome
    have hsq : toZMod beta * toZMod beta = toZMod y * toZMod y := by
      rw [← toZMod_mul, ← toZMod_mul, (sqrt_spec _).1 beta hbeta, hroot]
    refine ⟨x, (fromRepr_eq_some x).mpr hx, beta, hbeta, ?_⟩
    change AffinePoint.mk x (if beta.isOdd == odd then beta else -beta) false = _
    obtain heq | heq := mul_self_eq_mul_self_iff.mp hsq
    · obtain rfl := toZMod_injective heq
      rw [hodd, if_pos (beq_self_eq_true _)]
    · rw [← toZMod_neg] at heq
      obtain rfl := toZMod_injective heq
      have hne := ordinate_ne_zero hroot
      have hflip : ¬((-y).isOdd == odd) = true := by
        rw [isOdd_neg hne, hodd, beq_iff_eq]
        cases odd <;> decide
      have hneg : - -y = y := toZMod_injective (by rw [toZMod_neg, toZMod_neg, neg_neg])
      rw [if_neg hflip, hneg]

/-- **Two coordinates** are accepted where they are those of a point. -/
theorem fromCoordinates_uncompressed {xBytes yBytes : FieldBytes} {A : AffinePoint FieldElement} :
    fromCoordinates NistP256 (.uncompressed xBytes yBytes) = some A ↔
      ∃ Q : Point, Q ≠ 0 ∧ A = affine Q ∧ toRepr A.x = xBytes ∧ toRepr A.y = yBytes := by
  unfold fromCoordinates
  simp only [Option.bind_eq_some_iff]
  constructor
  · rintro ⟨y, hyb, x, hxb, h⟩
    split_ifs at h with hroot
    obtain rfl := Option.some.inj h
    obtain ⟨Q, hQ, hA⟩ := eq_affine hroot
    exact ⟨Q, hQ, hA, (fromRepr_eq_some x).mp hxb, (fromRepr_eq_some y).mp hyb⟩
  · rintro ⟨Q, hQ, rfl, hxb, hyb⟩
    obtain ⟨x, y, hA, hroot⟩ := affine_cases hQ
    rw [hA] at hxb hyb ⊢
    refine ⟨y, (fromRepr_eq_some y).mpr hyb, x, (fromRepr_eq_some x).mpr hxb, ?_⟩
    rw [if_pos hroot]

theorem affine_zero : affine 0 = identityAffine := by
  rw [WeierstrassCurve.Affine.Point.zero_def, affine]

theorem neg_affine (Q : Point) : Model.Affine.neg (affine Q) = affine (-Q) := by
  cases Q with
  | zero =>
    have hzero : -(0 : FieldElement) = 0 :=
      toZMod_injective (by rw [toZMod_neg, toZMod_zero, neg_zero])
    change (⟨0, -0, true⟩ : AffinePoint FieldElement) = ⟨0, 0, true⟩
    rw [hzero]
  | some x y hxy =>
    have hneg : -ringEquiv.symm y = ringEquiv.symm (-y) :=
      toZMod_injective (by rw [toZMod_neg, toZMod_symm, toZMod_symm])
    rw [WeierstrassCurve.Affine.Point.neg_some]
    simp only [Model.Affine.neg, affine, negY_eq, hneg]

/-- The compact form keeps the point or takes its opposite. -/
theorem toCompact_affine (Q : Point) :
    toCompact (affine Q) = affine Q ∨ toCompact (affine Q) = affine (-Q) := by
  unfold toCompact
  simp only
  split_ifs with h
  · right
    rw [← neg_affine, Model.Affine.neg]
  · exact Or.inl rfl

/-- **An encoded point that is accepted** is the affine form of a point of the curve. -/
theorem fromCoordinates_sound {c : Coordinates} {A : AffinePoint FieldElement}
    (h : fromCoordinates NistP256 c = some A) : ∃ Q : Point, A = affine Q := by
  cases c with
  | identity =>
    rw [fromCoordinates, Option.some.injEq] at h
    exact ⟨0, by rw [← h, affine_zero]⟩
  | compact x =>
    rw [fromCoordinates, decompact] at h
    obtain ⟨A', hA', rfl⟩ := Option.map_eq_some_iff.mp h
    obtain ⟨Q, -, rfl, -⟩ := decompress_eq_some.mp hA'
    obtain hc | hc := toCompact_affine Q
    · exact ⟨Q, hc⟩
    · exact ⟨-Q, hc⟩
  | compressed x odd =>
    rw [fromCoordinates] at h
    obtain ⟨Q, -, hA, -⟩ := decompress_eq_some.mp h
    exact ⟨Q, hA⟩
  | uncompressed x y =>
    obtain ⟨Q, -, hA, -⟩ := fromCoordinates_uncompressed.mp h
    exact ⟨Q, hA⟩

/-- **Every point reads back** from both its encodings. -/
theorem fromEncodedPoint_toEncodedPoint (S : Sec1) (Q : Point) (compress : Bool) :
    fromEncodedPoint NistP256 S (toEncodedPoint S (affine Q) compress) = some (affine Q) := by
  unfold fromEncodedPoint toEncodedPoint
  by_cases hQ : Q = 0
  · obtain rfl := hQ
    rw [affine_zero, if_pos (show identityAffine.infinity = true from rfl),
      S.coordinates_identity, fromCoordinates]
  · obtain ⟨x, y, hA, hroot⟩ := affine_cases hQ
    rw [if_neg (by rw [hA]; exact Bool.false_ne_true)]
    cases compress with
    | true =>
      rw [S.coordinates_compressed, fromCoordinates]
      exact decompress_eq_some.mpr ⟨Q, hQ, rfl, rfl, (lastByte_eq _).symm⟩
    | false =>
      rw [S.coordinates_uncompressed]
      exact fromCoordinates_uncompressed.mpr ⟨Q, hQ, rfl, rfl, rfl⟩

/-! ### What is accepted -/

/-- **Bytes are an element** where their number is below the modulus, and write the same bytes. -/
theorem fromRepr_spec (bytes : FieldBytes) :
    ((fromRepr bytes : Option FieldElement).isSome ↔ BigEndian.toNat bytes.toList < p) ∧
      ∀ x : FieldElement, fromRepr bytes = some x → toRepr x = bytes := by
  refine ⟨?_, fun x hx => (fromRepr_eq_some x).mp hx⟩
  constructor
  · intro h
    obtain ⟨x, hx⟩ := Option.isSome_iff_exists.mp h
    rw [← (fromRepr_eq_some x).mp hx, toList_toRepr, toBytes_eq,
      BigEndian.toNat_ofNat_of_lt ((ZMod.val_lt _).trans p_lt_bytes)]
    exact ZMod.val_lt _
  · intro hlt
    refine Option.isSome_iff_exists.mpr
      ⟨ringEquiv.symm (BigEndian.toNat bytes.toList : ZMod p), (fromRepr_eq_some _).mpr ?_⟩
    apply List.Vector.eq
    have hback := BigEndian.ofNat_toNat bytes.toList
    rw [bytes.toList_length] at hback
    rw [toList_toRepr, toBytes_eq, toZMod_symm, ZMod.val_cast_of_lt hlt, hback]

/-- **Decompression** answers the element that the bytes are, with the root of the curve's equation
that has the parity, and answers where there is one. -/
theorem decompress_iff {xBytes : FieldBytes} {odd : Bool} {A : AffinePoint FieldElement} :
    decompress NistP256 xBytes odd = some A ↔
      A.infinity = false ∧ toRepr A.x = xBytes ∧ A.y * A.y = cubic NistP256 A.x ∧
        A.y.isOdd = odd := by
  rw [decompress_eq_some]
  constructor
  · rintro ⟨Q, hQ, rfl, hx, hodd⟩
    obtain ⟨x, y, hxy, hroot⟩ := affine_cases hQ
    rw [hxy] at hx hodd ⊢
    exact ⟨rfl, hx, hroot, hodd⟩
  · rintro ⟨hinf, hx, hroot, hodd⟩
    obtain ⟨Q, hQ, hA⟩ := eq_affine hroot
    refine ⟨Q, hQ, ?_, hx, hodd⟩
    rw [← hA, ← hinf]

/-- **What is accepted** of encoded points is the affine forms of the points of the curve, and each
reads back from both its encodings. -/
theorem accepted_points (S : Sec1) :
    {A | ∃ e, fromEncodedPoint NistP256 S e = some A} = Set.range affine ∧
      ∀ (Q : Point) (compress : Bool),
        fromEncodedPoint NistP256 S (toEncodedPoint S (affine Q) compress) = some (affine Q) := by
  refine ⟨Set.eq_of_subset_of_subset ?_ ?_, fromEncodedPoint_toEncodedPoint S⟩
  · rintro A ⟨e, he⟩
    obtain ⟨Q, rfl⟩ := fromCoordinates_sound he
    exact ⟨Q, rfl⟩
  · rintro A ⟨Q, rfl⟩
    exact ⟨_, fromEncodedPoint_toEncodedPoint S Q true⟩

end EspMid.P256.Encoding
