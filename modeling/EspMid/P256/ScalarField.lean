import EspMid.Model.ScalarField
import Mathlib.Data.Nat.Size

/-! # The scalars are the field

With the operations the code has the scalars are the field of `n` elements (`scalars_are_field`), and
its three inversions agree: by divsteps, by Fermat's power and by Stein's algorithm
(`invertUnchecked_eq_invertFermat`, `invertVartime_eq_invert`). -/

namespace EspMid.P256.ScalarField

open EspMid.Lib EspMid.Lib.Words EspMid.Lib.Limbs EspMid.Model EspMid.Model.ScalarField
open EspMid.Model.ScalarField.Scalar EspMid.P256.Primes

/-- The residue that a scalar is. -/
def toZMod (x : Scalar) : ZMod n := (x.val : ZMod n)

theorem toZMod_injective : Function.Injective toZMod := by
  intro x y h
  have hmod := (ZMod.natCast_eq_natCast_iff' _ _ _).mp h
  rw [Nat.mod_eq_of_lt x.lt, Nat.mod_eq_of_lt y.lt] at hmod
  exact Scalar.ext hmod

theorem toZMod_surjective : Function.Surjective toZMod := fun r =>
  ⟨⟨r.val, ZMod.val_lt r⟩, ZMod.natCast_zmod_val r⟩

theorem val_toZMod (x : Scalar) : (toZMod x).val = x.val := ZMod.val_cast_of_lt x.lt

/-! ### The operations -/

variable (x y : Scalar)

theorem toZMod_add : toZMod (x + y) = toZMod x + toZMod y := by
  change (((x.val + y.val) % n : ℕ) : ZMod n) = x.val + y.val
  rw [ZMod.natCast_mod, Nat.cast_add]

theorem toZMod_sub : toZMod (x - y) = toZMod x - toZMod y := by
  change (((x.val + n - y.val) % n : ℕ) : ZMod n) = x.val - y.val
  have hle : y.val ≤ x.val + n := y.lt.le.trans (Nat.le_add_left _ _)
  rw [ZMod.natCast_mod, Nat.cast_sub hle, Nat.cast_add, ZMod.natCast_self, add_zero]

theorem toZMod_zero : toZMod 0 = 0 := Nat.cast_zero

theorem toZMod_one : toZMod 1 = 1 := Nat.cast_one

theorem toZMod_neg : toZMod (-x) = -toZMod x := by
  have h := toZMod_sub 0 x
  rwa [toZMod_zero, zero_sub] at h

/-- **The product** is reduced through its words. -/
theorem val_multiply : (x.multiply y).val = x.val * y.val % n := by
  have hx := x.lt
  have hy := y.lt
  have hn := n_lt
  have hwide : x.val * y.val < 2 ^ 256 * 2 ^ 256 :=
    Nat.mul_lt_mul'' (hx.trans hn) (hy.trans hn)
  unfold multiply
  simp only
  generalize x.val * y.val = w at hwide ⊢
  rw [(Barrett.toNat_barrettReduce (length_words _) (length_words _)).2,
    toNat_words (Nat.mod_lt _ (by norm_num)), toNat_words (Nat.div_lt_of_lt_mul hwide),
    Nat.mod_add_div]

theorem toZMod_mul : toZMod (x * y) = toZMod x * toZMod y := by
  change ((x.multiply y).val : ZMod n) = x.val * y.val
  rw [val_multiply, ZMod.natCast_mod, Nat.cast_mul]

theorem toZMod_square : toZMod x.square = toZMod x ^ 2 := by
  rw [pow_two]
  exact toZMod_mul x x

theorem isZero_iff : x.isZero = true ↔ toZMod x = 0 := by
  rw [isZero, beq_iff_eq, ← toZMod_injective.eq_iff]
  exact Iff.of_eq (congrArg _ toZMod_zero)

/-- **A reduction** of any `U256` is its residue. -/
theorem toZMod_reduce {w : ℕ} (hw : w < 2 ^ 256) : toZMod (reduce w hw) = (w : ZMod n) := by
  change ((if w < n then w else w - n : ℕ) : ZMod n) = w
  split
  · rfl
  · rw [Nat.cast_sub (by omega), ZMod.natCast_self, sub_zero]

/-! ### Powers -/

variable {x}

theorem powBit_power {res : Scalar} {w : UInt64} {e j : ℕ} (hj : j < 64)
    (h : toZMod res = toZMod x ^ e) :
    toZMod (powBit x w res j) = toZMod x ^ (2 * e + w.toNat / 2 ^ j % 2) := by
  have hbit : ((w >>> UInt64.ofNat j) &&& 1).toNat = w.toNat / 2 ^ j % 2 := by
    rw [UInt64.toNat_and, UInt64.toNat_shiftRight, UInt64.toNat_ofNat_of_lt' (hj.trans (by decide)),
      Nat.mod_eq_of_lt hj, Nat.shiftRight_eq_div_pow]
    exact Nat.and_one_is_mod _
  have hsq : toZMod res.square = toZMod x ^ (2 * e) := by
    rw [toZMod_square, h, ← pow_mul, mul_comm]
  unfold powBit
  simp only [beq_iff_eq, ← UInt64.toNat_inj, hbit]
  split_ifs with h1
  · rw [show w.toNat / 2 ^ j % 2 = 1 from h1, pow_succ, ← hsq]
    exact toZMod_mul _ _
  · have h0 : w.toNat / 2 ^ j % 2 = 0 := by
      have : ¬w.toNat / 2 ^ j % 2 = 1 := h1
      omega
    rw [h0, add_zero, hsq]

theorem powBits_power {w : UInt64} {k : ℕ} (hk : k ≤ 64) {res : Scalar} {e : ℕ}
    (h : toZMod res = toZMod x ^ e) :
    toZMod ((List.range k).reverse.foldl (powBit x w) res) =
      toZMod x ^ (2 ^ k * e + w.toNat % 2 ^ k) := by
  induction k generalizing res e with
  | zero => simpa [Nat.mod_one] using h
  | succ k ih =>
    rw [List.range_succ, List.reverse_append, List.reverse_singleton, List.singleton_append,
      List.foldl_cons, ih (by omega) (powBit_power (by omega) h)]
    congr 1
    rw [Nat.mod_pow_succ]
    ring

/-- **The power** is to the number of the exponent's words. -/
theorem toZMod_powVartime (x : Scalar) (exp : List UInt64) :
    toZMod (x.powVartime exp) = toZMod x ^ value (2 ^ 64) UInt64.toNat exp := by
  unfold powVartime
  induction exp with
  | nil => exact toZMod_one
  | cons w ws ih =>
    rw [List.reverse_cons, List.foldl_append, List.foldl_cons, List.foldl_nil, powWord,
      powBits_power le_rfl ih, value_cons, Nat.mod_eq_of_lt w.toNat_lt, Nat.add_comm]

/-! ### The inverses -/

/-- **Fermat's power inverts**, and takes zero to zero. -/
theorem toZMod_invertFermat (x : Scalar) : toZMod x.invertFermat = (toZMod x)⁻¹ := by
  have hexp : value (2 ^ 64) UInt64.toNat [0xF3B9CAC2FC63254F, 0xBCE6FAADA7179E84,
      0xFFFFFFFFFFFFFFFF, 0xFFFFFFFF00000000] = n - 2 := by decide
  rw [invertFermat, toZMod_powVartime, hexp]
  by_cases h0 : toZMod x = 0
  · rw [h0, inv_zero, zero_pow (by decide)]
  · refine eq_inv_of_mul_eq_one_left ?_
    rw [← pow_succ, show n - 2 + 1 = n - 1 by decide]
    exact ZMod.pow_card_sub_one_eq_one h0

/-- **The inversion by divsteps inverts**, and takes zero to zero. -/
theorem toZMod_invertUnchecked (x : Scalar) : toZMod x.invertUnchecked = (toZMod x)⁻¹ := by
  have hval := toNat_words (x.lt.trans n_lt)
  obtain ⟨-, -, hinv, hzero⟩ := Inversion.invert_spec (w := Scalar32.MODULUS) rfl
    (length_words x.val) (by decide) (by decide)
    (by rw [Barrett.toNat_MODULUS]; exact hval.trans_lt x.lt)
  change toNat (SafeGcd.invert (words x.val) MODINFO) * toNat (words x.val) ≡
    Nat.gcd (toNat Scalar32.MODULUS) (toNat (words x.val)) [MOD toNat Scalar32.MODULUS] at hinv
  change toNat (words x.val) = 0 → x.invertUnchecked.val = 0 at hzero
  change x.invertUnchecked.val * _ ≡ _ [MOD _] at hinv
  rw [hval, Barrett.toNat_MODULUS] at hinv
  rw [hval] at hzero
  by_cases h0 : toZMod x = 0
  · have hx0 : x.val = 0 := by rw [← val_toZMod, h0, ZMod.val_zero]
    rw [h0, inv_zero, toZMod, hzero hx0, Nat.cast_zero]
  · have hcop : Nat.gcd n x.val = 1 := by
      refine (Nat.Prime.coprime_iff_not_dvd prime_n).mpr fun hdvd => h0 ?_
      exact (ZMod.natCast_eq_zero_iff _ n).mpr hdvd
    rw [hcop] at hinv
    have hone := (ZMod.natCast_eq_natCast_iff _ _ _).mpr hinv
    rw [Nat.cast_mul, Nat.cast_one] at hone
    exact eq_inv_of_mul_eq_one_left hone

/-- **The inversion by divsteps agrees with Fermat's power.** -/
theorem invertUnchecked_eq_invertFermat (x : Scalar) : x.invertUnchecked = x.invertFermat := by
  apply toZMod_injective
  rw [toZMod_invertUnchecked, toZMod_invertFermat]

/-! ### Stein's algorithm -/

theorem toZMod_half (a : Scalar) : 2 * toZMod (half a) = toZMod a := by
  have hn : (n : ZMod n) = 0 := ZMod.natCast_self n
  have hshift : (a.shrVartime 1).val = a.val / 2 := Nat.shiftRight_eq_div_pow a.val 1
  unfold half isOdd
  simp only [beq_iff_eq]
  split_ifs with hodd
  · have hfrac : 2 * FRAC_MODULUS_2.val + 1 = n := by decide
    have hone : toZMod ONE = 1 := toZMod_one
    have hadd : toZMod (((a.shrVartime 1).add FRAC_MODULUS_2).add ONE) =
        toZMod (a.shrVartime 1) + toZMod FRAC_MODULUS_2 + toZMod ONE :=
      (toZMod_add _ _).trans (congrArg (· + _) (toZMod_add _ _))
    have hval : 2 * (a.val / 2) + 1 = a.val := by omega
    have hval' := congrArg (Nat.cast (R := ZMod n)) hval
    have hfrac' := congrArg (Nat.cast (R := ZMod n)) hfrac
    rw [hadd, hone, toZMod, toZMod, toZMod, hshift]
    push_cast at hval' hfrac'
    rw [hn] at hfrac'
    linear_combination hval' + hfrac'
  · have hval : 2 * (a.val / 2) = a.val := by omega
    have hval' := congrArg (Nat.cast (R := ZMod n)) hval
    rw [toZMod, toZMod, hshift]
    push_cast at hval'
    exact hval'

theorem size_half {u : ℕ} (hu : u ≠ 0) : Nat.size (u / 2) < Nat.size u := by
  have hpos : 0 < Nat.size u := Nat.size_pos.mpr (Nat.pos_of_ne_zero hu)
  obtain ⟨k, hk⟩ := Nat.exists_eq_add_of_lt hpos
  have hlt := Nat.lt_size_self u
  rw [hk, zero_add] at hlt ⊢
  refine Nat.lt_succ_of_le (Nat.size_le.mpr ?_)
  rw [pow_succ] at hlt
  omega

/-- A pair of the algorithm stands for a multiple of the scalar. -/
def Multiple (x : Scalar) (u : ℕ × Scalar) : Prop := toZMod u.2 * toZMod x = (u.1 : ZMod n)

theorem halving_spec {x : Scalar} {u : ℕ × Scalar} (hu : 0 < u.1) (hm : Multiple x u) {fuel : ℕ}
    (hfuel : Nat.size u.1 < fuel) :
    ∃ u' : ℕ × Scalar, halving fuel u = some u' ∧ Multiple x u' ∧ u'.1 % 2 = 1 ∧ u'.1 ∣ u.1 ∧
      (u.1 % 2 = 0 → Nat.size u'.1 < Nat.size u.1) := by
  have hbody : ∀ w : ℕ × Scalar, (0 < w.1 ∧ Multiple x w ∧ w.1 ∣ u.1) → (w.1 % 2 == 0) = true →
      ∃ w', some (w.1 / 2, half w.2) = some w' ∧ (0 < w'.1 ∧ Multiple x w' ∧ w'.1 ∣ u.1) ∧
        Nat.size w'.1 < Nat.size w.1 := by
    rintro w ⟨hw, hmul, hdvd⟩ heven
    rw [beq_iff_eq] at heven
    have htwo : 2 * (w.1 / 2) = w.1 := by omega
    refine ⟨_, rfl, ⟨by simp only; omega, ?_, (Dvd.intro_left 2 htwo).trans hdvd⟩,
      size_half (by omega)⟩
    have hcast := congrArg (Nat.cast (R := ZMod n)) htwo
    push_cast at hcast
    have hne : (2 : ZMod n) ≠ 0 := by
      have : ((2 : ℕ) : ZMod n) ≠ 0 := by
        rw [ne_eq, ZMod.natCast_eq_zero_iff]
        decide
      exact_mod_cast this
    refine mul_left_cancel₀ hne ?_
    rw [hcast, ← mul_assoc, toZMod_half]
    exact hmul
  obtain ⟨u', hrun, ⟨-, hmul, hdvd⟩, hodd⟩ := While.loop_spec
    (m := fun w : ℕ × Scalar => Nat.size w.1) hbody ⟨hu, hm, dvd_rfl⟩ hfuel
  have hodd' : u'.1 % 2 = 1 := by
    rw [beq_eq_false_iff_ne] at hodd
    omega
  refine ⟨u', hrun, hmul, hodd', hdvd, fun heven => ?_⟩
  have hle := Nat.le_of_dvd hu hdvd
  have hhalf : u'.1 ≤ u.1 / 2 := by
    obtain ⟨c, hc⟩ := hdvd
    have hc2 : 2 ≤ c := by
      rcases Nat.lt_or_ge c 2 with h | h
      · interval_cases c <;> omega
      · exact h
    rw [Nat.le_div_iff_mul_le (by norm_num), hc]
    exact Nat.mul_le_mul_left _ hc2
  exact (Nat.size_le_size hhalf).trans_lt (size_half (by omega))

/-- What a turn of the outer loop keeps. -/
structure SteinInv (x : Scalar) (s : Stein) : Prop where
  u : Multiple x s.u
  v : Multiple x s.v
  coprime : Nat.Coprime s.u.1 s.v.1
  v_pos : 0 < s.v.1
  u_lt : s.u.1 < n
  v_le : s.v.1 ≤ n

/-- What every turn makes less: the bits, and whether there is nothing to halve. -/
def steinMeasure (s : Stein) : ℕ :=
  Nat.size s.u.1 + Nat.size s.v.1 + (s.u.1 % 2) * (s.v.1 % 2)

theorem size_le_of_le {u : ℕ} (hu : u ≤ n) : Nat.size u ≤ 256 :=
  Nat.size_le.mpr (hu.trans_lt n_lt)

theorem steinBody_spec {x : Scalar} {fuel : ℕ} (hfuel : 256 < fuel) (s : Stein) (hs : SteinInv x s)
    (hu : (s.u.1 != 0) = true) :
    ∃ s', steinBody fuel s = some s' ∧ SteinInv x s' ∧ steinMeasure s' < steinMeasure s := by
  have hu0 : 0 < s.u.1 := Nat.pos_of_ne_zero (by simpa using hu)
  obtain ⟨u, hurun, hum, huodd, hudvd, husize⟩ := halving_spec hu0 hs.u
    ((size_le_of_le hs.u_lt.le).trans_lt hfuel)
  obtain ⟨v, hvrun, hvm, hvodd, hvdvd, hvsize⟩ := halving_spec hs.v_pos hs.v
    ((size_le_of_le hs.v_le).trans_lt hfuel)
  have hcop : Nat.Coprime u.1 v.1 := (hs.coprime.coprime_dvd_left hudvd).coprime_dvd_right hvdvd
  have hule := Nat.le_of_dvd hu0 hudvd
  have hvle := Nat.le_of_dvd hs.v_pos hvdvd
  have hult := hs.u_lt
  have hvlt := hs.v_le
  have hus := Nat.size_le_size hule
  have hvs := Nat.size_le_size hvle
  have hparity : s.u.1 % 2 * (s.v.1 % 2) = 1 ∨ s.u.1 % 2 = 0 ∨ s.v.1 % 2 = 0 := by
    rcases Nat.mod_two_eq_zero_or_one s.u.1 with h | h
    · exact Or.inr (Or.inl h)
    · rcases Nat.mod_two_eq_zero_or_one s.v.1 with h' | h'
      · exact Or.inr (Or.inr h')
      · exact Or.inl (by rw [h, h'])
  unfold steinBody
  rw [hurun, Option.bind_some, hvrun, Option.bind_some]
  split_ifs with hle
  · have hval : (u.1 + n - v.1) % n = u.1 - v.1 := by
      rw [show u.1 + n - v.1 = u.1 - v.1 + n by omega, Nat.add_mod_right,
        Nat.mod_eq_of_lt (by omega)]
    refine ⟨_, rfl, ⟨?_, hvm, ?_, by simp only; omega, by simp only; omega, by simp only; omega⟩, ?_⟩
    · simp only [Multiple, hval]
      have := toZMod_sub u.2 v.2
      change toZMod (u.2.sub v.2) = _ at this
      rw [this, sub_mul, hum, hvm, Nat.cast_sub hle]
    · simp only [hval]
      exact (Nat.coprime_sub_self_left hle).mpr hcop
    · have hsub := Nat.size_le_size (Nat.sub_le u.1 v.1)
      have hflag : (u.1 - v.1) % 2 = 0 := by omega
      simp only [steinMeasure, hval, hflag, zero_mul]
      rcases hparity with h | h | h
      · omega
      · have := husize h
        omega
      · have := hvsize h
        omega
  · have hval : (v.1 + n - u.1) % n = v.1 - u.1 := by
      rw [show v.1 + n - u.1 = v.1 - u.1 + n by omega, Nat.add_mod_right,
        Nat.mod_eq_of_lt (by omega)]
    refine ⟨_, rfl, ⟨hum, ?_, ?_, by simp only; omega, by simp only; omega, by simp only; omega⟩, ?_⟩
    · simp only [Multiple, hval]
      have := toZMod_sub v.2 u.2
      change toZMod (v.2.sub u.2) = _ at this
      rw [this, sub_mul, hum, hvm, Nat.cast_sub (by omega)]
    · simp only [hval]
      exact (Nat.coprime_sub_self_right (by omega)).mpr hcop
    · have hsub := Nat.size_le_size (Nat.sub_le v.1 u.1)
      have hflag : (v.1 - u.1) % 2 = 0 := by omega
      simp only [steinMeasure, hval, hflag, mul_zero]
      rcases hparity with h | h | h
      · omega
      · have := husize h
        omega
      · have := hvsize h
        omega

/-- **Stein's algorithm ends**, within `514` turns of each loop, with the inverse by divsteps. -/
theorem invertVartime_eq_invert (x : Scalar) {fuel : ℕ} (hfuel : 514 ≤ fuel) :
    x.invertVartime fuel = some x.invert := by
  unfold invertVartime invert
  by_cases h0 : x.val = 0
  · have hzero : x.isZero = true := by
      rw [isZero_iff, toZMod, h0, Nat.cast_zero]
    obtain ⟨k, rfl⟩ : ∃ k, fuel = k + 1 := ⟨fuel - 1, by omega⟩
    rw [While.loop, h0]
    simp [hzero]
  · have hzero : x.isZero = false := by
      rw [← Bool.not_eq_true, isZero_iff, toZMod, ZMod.natCast_eq_zero_iff]
      exact fun h => h0 (Nat.eq_zero_of_dvd_of_lt h x.lt)
    have hinit : SteinInv x ⟨(x.val, ONE), (n, ZERO)⟩ :=
      { u := by
          change toZMod 1 * toZMod x = (x.val : ZMod n)
          rw [toZMod_one, one_mul, toZMod]
        v := by
          change toZMod 0 * toZMod x = (n : ZMod n)
          rw [toZMod_zero, zero_mul, ZMod.natCast_self]
        coprime := ((Nat.Prime.coprime_iff_not_dvd prime_n).mpr fun h =>
          h0 (Nat.eq_zero_of_dvd_of_lt h x.lt)).symm
        v_pos := n_pos
        u_lt := x.lt
        v_le := le_rfl }
    have hmeasure : steinMeasure ⟨(x.val, ONE), (n, ZERO)⟩ < fuel := by
      have hu := size_le_of_le x.lt.le
      have hv := size_le_of_le (le_refl n)
      have hflag : x.val % 2 * (n % 2) ≤ 1 := by
        rw [show n % 2 = 1 from by decide, mul_one]
        omega
      simp only [steinMeasure]
      omega
    have hfuel : 256 < fuel := by omega
    obtain ⟨s, hrun, hs, hend⟩ := While.loop_spec (steinBody_spec hfuel) hinit hmeasure
    have hu : s.u.1 = 0 := by simpa using hend
    have hv : s.v.1 = 1 := by
      have := hs.coprime
      rwa [hu, Nat.coprime_zero_left] at this
    have hinv : s.v.2 = x.invertUnchecked := by
      apply toZMod_injective
      have hmul := hs.v
      rw [Multiple, hv, Nat.cast_one] at hmul
      rw [toZMod_invertUnchecked]
      exact eq_inv_of_mul_eq_one_left hmul
    rw [hrun, Option.map_some, hzero, hinv]

/-- **The operations of the scalars** are those of the field of `n` elements. -/
theorem scalars_are_field : Function.Bijective toZMod ∧ toZMod 0 = 0 ∧ toZMod 1 = 1 ∧
    (∀ x y : Scalar, toZMod (x + y) = toZMod x + toZMod y ∧
      toZMod (x - y) = toZMod x - toZMod y ∧ toZMod (-x) = -toZMod x ∧
      toZMod (x * y) = toZMod x * toZMod y) ∧
    ∀ (x : Scalar) (exp : List UInt64),
      toZMod (x.powVartime exp) = toZMod x ^ value (2 ^ 64) UInt64.toNat exp :=
  ⟨⟨toZMod_injective, toZMod_surjective⟩, toZMod_zero, toZMod_one,
    fun x y => ⟨toZMod_add x y, toZMod_sub x y, toZMod_neg x, toZMod_mul x y⟩, toZMod_powVartime⟩

/-- **The inversions of a scalar agree**: by divsteps, by Fermat's power and by Stein's algorithm,
which ends within 514 turns. -/
theorem scalar_inversions_agree (x : Scalar) {fuel : ℕ} (hfuel : 514 ≤ fuel) :
    x.invertUnchecked = x.invertFermat ∧ x.invertVartime fuel = some x.invert ∧
      (x.invert = none ↔ x = 0) ∧ ∀ y, x.invert = some y → x * y = 1 := by
  have hzero : x.isZero = true ↔ x = 0 := by
    rw [isZero, beq_iff_eq]
    rfl
  refine ⟨invertUnchecked_eq_invertFermat x, invertVartime_eq_invert x hfuel, ?_, fun y hy => ?_⟩
  · rw [← hzero]
    unfold invert
    split_ifs with h <;> simp [h]
  · unfold invert at hy
    split_ifs at hy with h
    obtain rfl := Option.some.inj hy
    have hne : toZMod x ≠ 0 := mt (isZero_iff x).mpr h
    apply toZMod_injective
    rw [toZMod_mul, toZMod_invertUnchecked, mul_inv_cancel₀ hne, toZMod_one]

theorem scalar_inversions_agree_two :
    (⟨2, by decide⟩ : Scalar).invertUnchecked = (⟨2, by decide⟩ : Scalar).invertFermat ∧
      (⟨2, by decide⟩ : Scalar).invertVartime 514 = some (⟨2, by decide⟩ : Scalar).invert ∧
      ((⟨2, by decide⟩ : Scalar).invert = none ↔ (⟨2, by decide⟩ : Scalar) = 0) ∧
      ∀ y, (⟨2, by decide⟩ : Scalar).invert = some y → (⟨2, by decide⟩ : Scalar) * y = 1 :=
  scalar_inversions_agree ⟨2, by decide⟩ le_rfl

/-! ### Halves and reductions -/

theorem val_neg_of_ne_zero {x : Scalar} (hx : x ≠ 0) : 0 < x.val ∧ (-x).val = n - x.val := by
  have hpos : 0 < x.val := Nat.pos_of_ne_zero fun h => hx (Scalar.ext h)
  have hlt := x.lt
  refine ⟨hpos, ?_⟩
  change (0 + n - x.val) % n = n - x.val
  rw [Nat.zero_add, Nat.mod_eq_of_lt (by omega)]

/-- **A negation** of a scalar that is not zero changes its half and its parity. -/
theorem neg_changes_half {x : Scalar} (hx : x ≠ 0) :
    (-x).isHigh = !x.isHigh ∧ (-x).isOdd = x.isEven := by
  obtain ⟨hpos, hneg⟩ := val_neg_of_ne_zero hx
  have hlt := x.lt
  have hodd : n % 2 = 1 := by decide
  have hhalf : FRAC_MODULUS_2.val = n / 2 := Nat.shiftRight_eq_div_pow n 1
  constructor
  · rw [isHigh, isHigh, hneg, hhalf, Bool.eq_iff_iff, decide_eq_true_eq, Bool.not_eq_true',
      decide_eq_false_iff_not]
    omega
  · rw [isEven, isOdd, isOdd, hneg, Bool.eq_iff_iff, beq_iff_eq, Bool.not_eq_true',
      beq_eq_false_iff_ne]
    omega

theorem neg_changes_half_one : (-(1 : Scalar)).isHigh = !(1 : Scalar).isHigh ∧
    (-(1 : Scalar)).isOdd = (1 : Scalar).isEven := neg_changes_half (by decide)

theorem val_reduceNonzero {w : ℕ} (hw : w < 2 ^ 256) :
    (reduceNonzero w hw).val = w % (n - 1) + 1 := by
  have hn : 2 ^ 256 < 2 * (n - 1) := by decide
  change (if w < n - 1 then w else w - (n - 1)) + 1 = w % (n - 1) + 1
  split_ifs with h
  · rw [Nat.mod_eq_of_lt h]
  · rw [Nat.mod_eq_sub_mod (by omega), Nat.mod_eq_of_lt (by omega)]

/-- **A reduction past zero** gives no zero, and one scalar only for the numbers that are the same
modulo `n - 1`. -/
theorem reduceNonzero_eq_iff {v w : ℕ} (hv : v < 2 ^ 256) (hw : w < 2 ^ 256) :
    reduceNonzero v hv ≠ 0 ∧ (reduceNonzero v hv = reduceNonzero w hw ↔ v ≡ w [MOD n - 1]) := by
  constructor
  · intro h
    have hval : (reduceNonzero v hv).val = 0 := congrArg Scalar.val h
    rw [val_reduceNonzero hv] at hval
    omega
  · have hval : reduceNonzero v hv = reduceNonzero w hw ↔
        (reduceNonzero v hv).val = (reduceNonzero w hw).val := ⟨congrArg Scalar.val, Scalar.ext⟩
    rw [hval, val_reduceNonzero hv, val_reduceNonzero hw, Nat.ModEq, Nat.add_right_cancel_iff]

theorem reduceNonzero_eq_iff_order : reduceNonzero 0 (by decide) ≠ 0 ∧
    (reduceNonzero 0 (by decide) = reduceNonzero (n - 1) (by decide) ↔ 0 ≡ n - 1 [MOD n - 1]) :=
  reduceNonzero_eq_iff (by decide) (by decide)

end EspMid.P256.ScalarField
