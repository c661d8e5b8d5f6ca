import EspMid.Lib.Divsteps
import EspMid.Lib.SignedWords
import EspMid.Model.SafeGcd

/-! # Thirty divsteps on words

The step without a branch is one of the three kinds of divstep (`divstep_halve`, `divstep_swap`,
`divstep_add`). On words that hold `zeta` and the matrix, and the low bits of `f` and `g`, it gives
the next state with a bit less (`Low.step`), so that from the low limbs of `f` and `g` the thirty
steps give the `zeta` and the matrix of thirty divsteps (`divsteps30_spec`). -/

namespace EspMid.P256.DivstepWords

open EspMid.Lib EspMid.Lib.Words EspMid.Lib.SignedWords EspMid.Model.SafeGcd

/-! ### Words up to a power of two -/

theorem int_add (x y : UInt32) : int (x + y) ≡ int x + int y [ZMOD 2 ^ 32] := by
  unfold int
  rw [UInt32.toNat_add]
  push_cast
  exact Int.mod_modEq _ _

theorem int_sub (x y : UInt32) : int (x - y) ≡ int x - int y [ZMOD 2 ^ 32] := by
  have h := (int_add (x - y) y).sub_right (int y)
  rw [UInt32.sub_add_cancel] at h
  exact (by simpa using h.symm)

theorem int_double (x : UInt32) : int (x <<< 1) ≡ 2 * int x [ZMOD 2 ^ 32] := by
  have h : x <<< 1 = x + x := by
    rw [← UInt32.toNat_inj, UInt32.toNat_shiftLeft, UInt32.toNat_add]
    change (x.toNat <<< 1) % 2 ^ 32 = _
    rw [Nat.shiftLeft_eq, pow_one, mul_two]
  rw [h, two_mul]
  exact int_add x x

theorem int_half (x : UInt32) : int (x >>> 1) = int x / 2 := by
  unfold int
  rw [UInt32.toNat_shiftRight]
  change ((x.toNat >>> 1 : ℕ) : ℤ) = _
  rw [Nat.shiftRight_eq_div_pow]
  rfl

theorem odd_mask (x : UInt32) : -(x &&& 1) = if int x % 2 = 0 then 0 else -1 := by
  have h : x &&& 1 = if int x % 2 = 0 then 0 else 1 := by
    rw [← UInt32.toNat_inj, UInt32.toNat_and]
    change x.toNat &&& 1 = _
    rw [Nat.and_one_is_mod]
    unfold int
    split
    · change x.toNat % 2 = 0
      omega
    · change x.toNat % 2 = 1
      omega
  rw [h]
  split
  · rfl
  · rfl

/-! ### The step's cases -/

theorem negated (x : UInt32) : (x ^^^ -1) - -1 = -x := by
  rw [UInt32.xor_neg_one, UInt32.sub_neg, UInt32.neg_eq_not_add]

theorem swapped (x y : UInt32) : x + (y - x) = y := by
  rw [UInt32.add_comm, UInt32.sub_add_cancel]

theorem zeta_mask (z : Int32) : (z >>> 31).toUInt32 = if z.toInt < 0 then -1 else 0 := by
  rw [sign_mask]
  split <;> rfl

variable {s : Steps}

theorem divstep_halve (hg : int s.g % 2 = 0) :
    divstep s = ⟨s.zeta - 1, s.f, s.g >>> 1, s.u <<< 1, s.v <<< 1, s.q, s.r⟩ := by
  unfold divstep
  rw [odd_mask, if_pos hg]
  simp only [UInt32.and_zero, UInt32.add_zero]
  rw [show (0 : UInt32).toInt32 = 0 from rfl, Int32.xor_zero]

theorem divstep_swap (hg : int s.g % 2 = 1) (hz : s.zeta.toInt < 0) :
    divstep s = ⟨-s.zeta - 2, s.g, (s.g - s.f) >>> 1, s.q <<< 1, s.r <<< 1, s.q - s.u,
      s.r - s.v⟩ := by
  have hzeta : (s.zeta ^^^ (-1 : UInt32).toInt32) - 1 = -s.zeta - 2 := by
    rw [show (-1 : UInt32).toInt32 = -1 from rfl, Int32.xor_neg_one, Int32.not_eq_neg_sub,
      Int32.sub_sub]
    rfl
  unfold divstep
  rw [odd_mask, if_neg (by omega), zeta_mask, if_pos hz]
  simp only [negated, UInt32.and_neg_one, hzeta, ← UInt32.sub_eq_add_neg, swapped]

theorem divstep_add (hg : int s.g % 2 = 1) (hz : 0 ≤ s.zeta.toInt) :
    divstep s = ⟨s.zeta - 1, s.f, (s.g + s.f) >>> 1, s.u <<< 1, s.v <<< 1, s.q + s.u,
      s.r + s.v⟩ := by
  unfold divstep
  rw [odd_mask, if_neg (by omega), zeta_mask, if_neg (by omega)]
  simp only [UInt32.xor_zero, UInt32.sub_zero, UInt32.and_neg_one, UInt32.and_zero,
    UInt32.add_zero]
  rw [show (0 : UInt32).toInt32 = 0 from rfl, Int32.xor_zero]

/-! ### Words that hold a run -/

open EspMid.Lib.Divsteps (State Kind)

/-- Words with the `zeta` and the matrix of a run, and the low `k` bits of its pair. -/
structure Low (k : ℕ) (s : Steps) (w : State × Divsteps.Matrix) : Prop where
  zeta : s.zeta.toInt = w.1.zeta
  f : int s.f ≡ w.1.f [ZMOD 2 ^ k]
  g : int s.g ≡ w.1.g [ZMOD 2 ^ k]
  u : int s.u ≡ w.2.u [ZMOD 2 ^ 32]
  v : int s.v ≡ w.2.v [ZMOD 2 ^ 32]
  q : int s.q ≡ w.2.q [ZMOD 2 ^ 32]
  r : int s.r ≡ w.2.r [ZMOD 2 ^ 32]

variable {k : ℕ} {w : State × Divsteps.Matrix}

theorem Low.parity (h : Low (k + 1) s w) : int s.g % 2 = w.1.g % 2 :=
  h.g.of_dvd (dvd_pow_self 2 (Nat.succ_ne_zero k))

theorem half_low {x : UInt32} {y z : ℤ} (hk : k + 1 ≤ 32) (h : int x ≡ y [ZMOD 2 ^ 32])
    (hyz : y ≡ z [ZMOD 2 ^ (k + 1)]) (hz : z % 2 = 0) : int (x >>> 1) ≡ z / 2 [ZMOD 2 ^ k] := by
  have hxz : int x ≡ z [ZMOD 2 ^ (k + 1)] := (h.of_dvd (pow_dvd_pow 2 hk)).trans hyz
  have hx : int x % 2 = 0 := by
    have : int x % 2 = z % 2 := hxz.of_dvd (dvd_pow_self 2 (Nat.succ_ne_zero k))
    omega
  rw [int_half]
  exact Divsteps.half_modEq hx hxz

/-- **A step keeps the words in the run**, with a bit of the pair less. -/
theorem Low.step (hk : k + 1 ≤ 32) (h : Low (k + 1) s w) (hf : w.1.f % 2 = 1)
    (hz : |w.1.zeta| < 2 ^ 30) : Low k (divstep s) (Divsteps.next w) := by
  have hdvd : (2 : ℤ) ^ k ∣ 2 ^ (k + 1) := pow_dvd_pow 2 (Nat.le_succ k)
  have hpar := h.parity
  have hzeta := h.zeta
  rw [abs_lt] at hz
  have hone : (1 : Int32).toInt = 1 := rfl
  have hdec : (s.zeta - 1).toInt = w.1.zeta - 1 := by
    rw [sub32] <;> rw [hone] <;> omega
  unfold Divsteps.next State.step
  obtain ⟨hkind, hg, -⟩ | ⟨hkind, hg, hneg, -⟩ | ⟨hkind, hg, hnonneg, -⟩ :=
    Divsteps.step_cases hf
  · rw [hkind, divstep_halve (by omega)]
    exact
      { zeta := hdec
        f := h.f.of_dvd hdvd
        g := half_low hk Int.ModEq.rfl h.g hg
        u := (int_double _).trans (h.u.mul_left 2)
        v := (int_double _).trans (h.v.mul_left 2)
        q := h.q
        r := h.r }
  · have hswap : (-s.zeta - 2).toInt = -w.1.zeta - 2 := by
      have hneg' : (-s.zeta).toInt = -w.1.zeta := by
        rw [Int32.toInt_neg, hzeta, bmod_of_fits] <;> omega
      have htwo : (2 : Int32).toInt = 2 := rfl
      rw [sub32] <;> rw [hneg', htwo] <;> omega
    rw [hkind, divstep_swap (by omega) (by omega)]
    exact
      { zeta := hswap
        f := h.g.of_dvd hdvd
        g := half_low hk (int_sub _ _) (h.g.sub h.f) (by omega)
        u := (int_double _).trans (h.q.mul_left 2)
        v := (int_double _).trans (h.r.mul_left 2)
        q := (int_sub _ _).trans (h.q.sub h.u)
        r := (int_sub _ _).trans (h.r.sub h.v) }
  · rw [hkind, divstep_add (by omega) (by omega)]
    exact
      { zeta := hdec
        f := h.f.of_dvd hdvd
        g := half_low hk (int_add _ _) (h.g.add h.f) (by omega)
        u := (int_double _).trans (h.u.mul_left 2)
        v := (int_double _).trans (h.v.mul_left 2)
        q := (int_add _ _).trans (h.q.add h.u)
        r := (int_add _ _).trans (h.r.add h.v) }

theorem Low.steps {t : State} (hf : t.f % 2 = 1) (hz : |t.zeta| < 2 ^ 29) {j n : ℕ}
    (hn : j + n ≤ 32) (h : Low (j + n) s (Divsteps.run t 0)) :
    Low j (divstep^[n] s) (Divsteps.run t n) := by
  induction n generalizing j with
  | zero => exact h
  | succ n ih =>
    have hlow := ih (j := j + 1) (by omega) (by rwa [show j + 1 + n = j + (n + 1) by omega])
    have hle := Divsteps.zeta_run_le t n
    rw [Function.iterate_succ_apply', Divsteps.run_succ]
    exact hlow.step (by omega) (Divsteps.run_f_odd hf n) (by omega)

/-- A matrix in signed words. -/
structure Holds (t : Matrix) (m : Divsteps.Matrix) : Prop where
  u : t.u.toInt = m.u
  v : t.v.toInt = m.v
  q : t.q.toInt = m.q
  r : t.r.toInt = m.r

theorem toInt_of_modEq {x : UInt32} {y : ℤ} (h : int x ≡ y [ZMOD 2 ^ 32]) (hy : |y| ≤ 2 ^ 30) :
    x.toInt32.toInt = y := by
  have hx : x.toInt32.toInt = (int x).bmod (2 ^ 32) := BitVec.toInt_eq_toNat_bmod _
  rw [abs_le] at hy
  have hmod : (int x).bmod (2 ^ 32) = y.bmod (2 ^ 32) := by
    rw [← Int.emod_bmod, ← Int.emod_bmod (x := y)]
    exact congrArg (Int.bmod · (2 ^ 32)) h
  rw [hx, hmod, bmod_of_fits] <;> omega

/-- **Thirty divsteps from the low limbs** give the `zeta` and the matrix of thirty from the pair. -/
theorem divsteps30_spec {zeta : Int32} {f0 g0 : UInt32} {t : State} (hf : t.f % 2 = 1)
    (hzeta : zeta.toInt = t.zeta) (hz : |t.zeta| < 2 ^ 29) (hf0 : int f0 ≡ t.f [ZMOD 2 ^ 30])
    (hg0 : int g0 ≡ t.g [ZMOD 2 ^ 30]) :
    (divsteps30 zeta f0 g0).1.toInt = (Divsteps.run t 30).1.zeta ∧
      Holds (divsteps30 zeta f0 g0).2 (Divsteps.run t 30).2 := by
  have hstart : Low (0 + 30) ⟨zeta, f0, g0, 1, 0, 0, 1⟩ (Divsteps.run t 0) :=
    { zeta := hzeta
      f := hf0
      g := hg0
      u := rfl
      v := rfl
      q := rfl
      r := rfl }
  have hend := hstart.steps hf hz (by norm_num)
  obtain ⟨hu, hq⟩ := Divsteps.run_le t 30
  unfold divsteps30
  simp only
  generalize Divsteps.run t 30 = w at hend hu hq ⊢
  have hu0 := abs_nonneg w.2.u
  have hv0 := abs_nonneg w.2.v
  have hq0 := abs_nonneg w.2.q
  have hr0 := abs_nonneg w.2.r
  exact ⟨hend.zeta, toInt_of_modEq hend.u (by omega), toInt_of_modEq hend.v (by omega),
    toInt_of_modEq hend.q (by omega), toInt_of_modEq hend.r (by omega)⟩

end EspMid.P256.DivstepWords
