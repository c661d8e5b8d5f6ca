import EspMid.Lib.DivstepsBound
import EspMid.P256.DivstepConversions
import EspMid.P256.DivstepSums

/-! # The inversion

Twenty rounds of thirty divsteps hold the numbers of a run of six hundred (`Hold.rounds`), and with
them `d` and `e` that give `f` and `g` when multiplied by the number to invert. After so many steps
`g` is zero and `f` the greatest common divisor up to sign, so that `invert` is the inverse modulo
every odd modulus where there is one (`invert_spec`). -/

namespace EspMid.P256.Inversion

open EspMid.Lib EspMid.Lib.Words EspMid.Lib.SignedWords EspMid.Lib.Divsteps
open EspMid.Model.Field32 EspMid.Model.SafeGcd
open EspMid.P256.DivstepWords EspMid.P256.DivstepLimbs EspMid.P256.DivstepResidues
open EspMid.P256.DivstepConversions EspMid.P256.DivstepSums

/-- Limbs that hold `d`, not far from the least residue of `f` over `x`. -/
structure Over (n x f : ℤ) (a : S30) (d : ℤ) : Prop where
  signed : Signed a d
  lo : -2 * n < d
  hi : d < n
  modEq : d * x ≡ f [ZMOD n]

/-- The pair that a run starts from. -/
def start (n x : ℤ) : State := ⟨-1, n, x⟩

/-- The variables after `k` rounds. -/
structure Hold (n x : ℤ) (k : ℕ) (s : Round) : Prop where
  zeta : s.zeta.toInt = (run (start n x) (30 * k)).1.zeta
  f : Signed s.f (run (start n x) (30 * k)).1.f
  g : Signed s.g (run (start n x) (30 * k)).1.g
  de : ∃ d e : ℤ, Over n x (run (start n x) (30 * k)).1.f s.d d ∧
    Over n x (run (start n x) (30 * k)).1.g s.e e ∧ (x = 0 → n ∣ d)

variable {m : ModInfo} {n x : ℤ}

theorem cancel_two_pow (hn : n % 2 = 1) {k : ℕ} {y z : ℤ} (h : 2 ^ k * y ≡ 2 ^ k * z [ZMOD n]) :
    y ≡ z [ZMOD n] := by
  have hcop : Int.gcd n (2 ^ k) = 1 := by
    rw [Int.gcd, Int.natAbs_pow]
    exact (Nat.coprime_two_right.mpr (Nat.odd_iff.mpr (by omega))).pow_right k
  refine Int.modEq_iff_dvd.mpr (Int.dvd_of_dvd_mul_right_of_gcd_one ?_ hcop)
  rw [mul_sub]
  exact h.dvd

/-- The thirty divsteps of a round. -/
theorem Hold.divsteps (hodd : n % 2 = 1) {k : ℕ} (hk : k < 20) {s : Round} (h : Hold n x k s) :
    (divsteps30 s.zeta (s.f.getD 0 0).toUInt32 (s.g.getD 0 0).toUInt32).1.toInt =
        (run (run (start n x) (30 * k)).1 30).1.zeta ∧
      Holds (divsteps30 s.zeta (s.f.getD 0 0).toUInt32 (s.g.getD 0 0).toUInt32).2
        (run (run (start n x) (30 * k)).1 30).2 := by
  have hz : |(run (start n x) (30 * k)).1.zeta| < 2 ^ 29 := by
    have := zeta_run_le (start n x) (30 * k)
    rw [show |(start n x).zeta| = 1 from rfl] at this
    push_cast at this
    omega
  exact divsteps30_spec (run_f_odd hodd _) h.zeta hz h.f.first_word h.g.first_word

/-- **No sum of a round overflows.** -/
theorem Hold.fits (hodd : n % 2 = 1) {k : ℕ} (hk : k < 20) {s : Round} (h : Hold n x k s)
    (m : ModInfo) : RoundFits m s := by
  obtain ⟨-, hmat⟩ := h.divsteps hodd hk
  obtain ⟨hu, hq⟩ := run_le (run (start n x) (30 * k)).1 30
  rw [← hmat.u, ← hmat.v] at hu
  rw [← hmat.q, ← hmat.r] at hq
  exact ⟨deFits hu hq _ _ m, fgFits hu hq _ _⟩

/-- **A round** takes the numbers thirty divsteps on. -/
theorem Hold.round (hm : Modulus m n) (hodd : n % 2 = 1) (hx : 0 ≤ x ∧ x ≤ n) {k : ℕ} (hk : k < 20)
    {s : Round} (h : Hold n x k s) : Hold n x (k + 1) (round m s) := by
  have hadd : (run (start n x) (30 * (k + 1))).1 = (run (run (start n x) (30 * k)).1 30).1 := by
    rw [← run_add]
    rfl
  have hf : (run (start n x) (30 * k)).1.f % 2 = 1 := run_f_odd hodd _
  have habs := abs_run_le (s := start n x) hodd (m := n)
    ⟨by rw [abs_le]; exact ⟨by have := hm.pos; change -n ≤ n; omega, le_rfl⟩,
      by rw [abs_le]; exact ⟨by have := hm.pos; change -n ≤ x; omega, hx.2⟩⟩ (30 * (k + 1))
  have hzero : x = 0 → (run (start n x) (30 * k)).1.g = 0 := fun h0 => run_g_zero hodd h0 _
  obtain ⟨d, e, hd, he, hd0⟩ := h.de
  obtain ⟨hzeta, hmat⟩ := h.divsteps hodd hk
  have hfs := h.f
  have hgs := h.g
  generalize run (start n x) (30 * k) = w at *
  obtain ⟨hu, hq⟩ := run_le w.1 30
  obtain ⟨hfeq, hgeq⟩ := run_eq hf 30
  have hv0 : x = 0 → (run w.1 30).2.v = 0 := fun h0 => run_v_zero hf (hzero h0) 30
  rw [hadd] at habs
  unfold Model.SafeGcd.round
  simp only
  generalize divsteps30 s.zeta (s.f.getD 0 0).toUInt32 (s.g.getD 0 0).toUInt32 = c at hzeta hmat ⊢
  rw [← hmat.u, ← hmat.v] at hu hfeq
  rw [← hmat.q, ← hmat.r] at hq hgeq
  have hlt := hm.lt
  obtain ⟨hf', hg'⟩ := updateFg_spec hu hq hfs hgs hfeq hgeq (by omega) (by omega)
  obtain ⟨d', e', ⟨hd', hdlo', hdhi', hdmod⟩, he', helo', hehi', hemod⟩ :=
    updateDe_spec hm hu hq hd.signed he.signed ⟨hd.lo, hd.hi⟩ ⟨he.lo, he.hi⟩
  refine ⟨by rw [hadd]; exact hzeta, by rw [hadd]; exact hf', by rw [hadd]; exact hg', d', e',
    ⟨hd', hdlo', hdhi', ?_⟩, ⟨he', helo', hehi', ?_⟩, ?_⟩
  · rw [hadd]
    refine cancel_two_pow hodd (k := 30) ?_
    calc 2 ^ 30 * (d' * x) = 2 ^ 30 * d' * x := by ring
      _ ≡ (c.2.u.toInt * d + c.2.v.toInt * e) * x [ZMOD n] := hdmod.mul_right x
      _ = c.2.u.toInt * (d * x) + c.2.v.toInt * (e * x) := by ring
      _ ≡ c.2.u.toInt * w.1.f + c.2.v.toInt * w.1.g [ZMOD n] :=
          (hd.modEq.mul_left _).add (he.modEq.mul_left _)
      _ = 2 ^ 30 * (run w.1 30).1.f := hfeq.symm
  · rw [hadd]
    refine cancel_two_pow hodd (k := 30) ?_
    calc 2 ^ 30 * (e' * x) = 2 ^ 30 * e' * x := by ring
      _ ≡ (c.2.q.toInt * d + c.2.r.toInt * e) * x [ZMOD n] := hemod.mul_right x
      _ = c.2.q.toInt * (d * x) + c.2.r.toInt * (e * x) := by ring
      _ ≡ c.2.q.toInt * w.1.f + c.2.r.toInt * w.1.g [ZMOD n] :=
          (hd.modEq.mul_left _).add (he.modEq.mul_left _)
      _ = 2 ^ 30 * (run w.1 30).1.g := hgeq.symm
  · intro h0
    rw [hmat.v, hv0 h0, zero_mul, add_zero] at hdmod
    refine Int.modEq_zero_iff_dvd.mp (cancel_two_pow hodd (k := 30) ?_)
    rw [mul_zero]
    exact hdmod.trans (Int.modEq_zero_iff_dvd.mpr (Dvd.dvd.mul_left (hd0 h0) _))

theorem signed_zero : Signed (List.replicate 9 0) 0 where
  length := rfl
  low y hy := by
    rw [List.eq_of_mem_replicate (List.mem_of_mem_take hy)]
    decide
  eq := rfl

theorem signed_one : Signed (1 :: List.replicate 8 0) 1 where
  length := rfl
  low y hy := by
    obtain rfl | h := List.mem_cons.mp (List.mem_of_mem_take hy)
    · decide
    · rw [List.eq_of_mem_replicate h]
      decide
  eq := rfl

/-- The variables before the first round. -/
def init (m : ModInfo) (w : Fe) : Round :=
  ⟨-1, List.replicate 9 0, 1 :: List.replicate 8 0, m.modulus, toS30 w⟩

theorem Hold.init (hm : Modulus m n) (hn : 1 < n) {w : Fe} (hw : w.length = 8)
    (hx : (toNat w : ℤ) = x) : Hold n x 0 (init m w) := by
  refine ⟨rfl, hm.signed, hx ▸ toS30_spec hw, 0, 1, ⟨signed_zero, by omega, by omega, ?_⟩,
    ⟨signed_one, by omega, hn, ?_⟩, fun _ => dvd_zero n⟩
  · rw [zero_mul]
    exact (Int.modEq_zero_iff_dvd.mpr dvd_rfl).symm
  · rw [one_mul]
    rfl

theorem Hold.rounds (hm : Modulus m n) (hodd : n % 2 = 1) (hx : 0 ≤ x ∧ x ≤ n) {k : ℕ}
    (hk : k ≤ 20) {s : Round} (h : Hold n x 0 s) : Hold n x k ((Model.SafeGcd.round m)^[k] s) := by
  induction k with
  | zero => exact h
  | succ k ih =>
    rw [Function.iterate_succ_apply']
    exact (ih (by omega)).round hm hodd hx (by omega)

/-- After six hundred divsteps the pair is the greatest common divisor up to sign, and zero. -/
theorem run_600 (hodd : n % 2 = 1) (hlt : n < 2 ^ 256) (hx : 0 ≤ x ∧ x ≤ n) :
    (run (start n x) 600).1.g = 0 ∧ |(run (start n x) 600).1.f| = Int.gcd n x := by
  have hg : (run (start n x) 600).1.g = 0 := by
    rw [show 600 = 590 + 10 from rfl, run_add]
    refine run_g_zero (run_f_odd hodd 590) ?_ 10
    rw [run_fst]
    exact step_590 hodd hlt hx.1 hx.2
  refine ⟨hg, ?_⟩
  have hgcd := gcd_run (s := start n x) hodd 600
  rw [hg, Int.gcd_zero_right] at hgcd
  rw [Int.abs_eq_natAbs, hgcd]
  rfl

/-- **The inversion.** For an odd modulus `n` and `x` below it the result is below the modulus, `x`
times it is the greatest common divisor of the two, and it is zero for zero. -/
theorem invert_spec {w v : Fe} (hw : w.length = 8) (hv : v.length = 8) (hodd : toNat w % 2 = 1)
    (hone : 1 < toNat w) (hlt : toNat v < toNat w) :
    (invert v (ModInfo.new w)).length = 8 ∧ toNat (invert v (ModInfo.new w)) < toNat w ∧
      toNat (invert v (ModInfo.new w)) * toNat v ≡ Nat.gcd (toNat w) (toNat v) [MOD toNat w] ∧
      (toNat v = 0 → toNat (invert v (ModInfo.new w)) = 0) := by
  have hm := new_spec hw hodd
  have hodd' : (toNat w : ℤ) % 2 = 1 := by omega
  have hx : (0 : ℤ) ≤ toNat v ∧ (toNat v : ℤ) ≤ toNat w := by omega
  have hend := (Hold.init hm (by omega) hv rfl).rounds hm hodd' hx (k := 20) le_rfl
  obtain ⟨hg, hf⟩ := run_600 hodd' hm.lt hx
  change Hold _ _ 20 _ at hend
  have hinvert : invert v (ModInfo.new w) = fromS30 (normalize
      ((Model.SafeGcd.round (ModInfo.new w))^[20] (init (ModInfo.new w) v)).d
      (((Model.SafeGcd.round (ModInfo.new w))^[20] (init (ModInfo.new w) v)).f.getD 8 0)
      (ModInfo.new w)) := rfl
  rw [hinvert]
  generalize (Model.SafeGcd.round (ModInfo.new w))^[20] (init (ModInfo.new w) v) = s at hend ⊢
  obtain ⟨d, e, hd, -, hd0⟩ := hend.de
  have hfs := hend.f
  rw [show 30 * 20 = 600 from rfl] at hd hfs
  obtain ⟨y, hy, hy0, hyn, hymod⟩ := normalize_spec hm hd.signed ⟨hd.lo, hd.hi⟩ (s.f.getD 8 0)
  obtain ⟨r, rfl⟩ := Int.eq_ofNat_of_zero_le hy0
  obtain ⟨hlen, hval⟩ := fromS30_spec hy (by have := hm.lt; omega)
  have hgcd : (r : ℤ) * toNat v ≡ Int.gcd (toNat w) (toNat v) [ZMOD toNat w] := by
    refine (hymod.mul_right _).trans ?_
    rw [← hf]
    have hdm := hd.modEq
    by_cases hneg : (s.f.getD 8 0).toInt < 0
    · have := hfs.top_neg.mp hneg
      rw [if_pos hneg, abs_of_neg this, neg_mul]
      exact hdm.neg
    · have := mt hfs.top_neg.mpr hneg
      rw [if_neg hneg, abs_of_nonneg (by omega)]
      exact hdm
  rw [hval]
  refine ⟨hlen, by omega, ?_, ?_⟩
  · rw [← Int.natCast_modEq_iff]
    push_cast
    exact hgcd
  · intro h0
    have hdvd : (toNat w : ℤ) ∣ d := hd0 (by omega)
    have hzero : (r : ℤ) ≡ 0 [ZMOD toNat w] := by
      refine hymod.trans (Int.modEq_zero_iff_dvd.mpr ?_)
      split
      · exact (dvd_neg).mpr hdvd
      · exact hdvd
    have := Int.eq_zero_of_dvd_of_nonneg_of_lt (by omega) hyn (Int.modEq_zero_iff_dvd.mp hzero)
    omega

/-- **The inverse** of words prime to an odd modulus, of any eight words, is reached in the divsteps
the code takes, and no sum overflows in any of its twenty rounds. -/
theorem invert_of_coprime {w v : Fe} (hw : w.length = 8) (hv : v.length = 8)
    (hodd : toNat w % 2 = 1) (hlt : toNat v < toNat w) (hone : 1 < toNat w)
    (hco : Nat.Coprime (toNat w) (toNat v)) :
    toNat (invert v (ModInfo.new w)) < toNat w ∧
      toNat (invert v (ModInfo.new w)) * toNat v % toNat w = 1 ∧
      ∀ k < 20, RoundFits (ModInfo.new w)
        ((Model.SafeGcd.round (ModInfo.new w))^[k] (init (ModInfo.new w) v)) := by
  obtain ⟨-, hred, hinv, -⟩ := invert_spec hw hv hodd hone hlt
  rw [hco] at hinv
  refine ⟨hred, Eq.trans hinv (Nat.mod_eq_of_lt hone), fun k hk => ?_⟩
  have hm := new_spec hw hodd
  have hodd' : (toNat w : ℤ) % 2 = 1 := by omega
  have hstart := Hold.init hm (by omega) hv rfl
  exact (hstart.rounds hm hodd' (by omega) hk.le).fits hodd' hk _

theorem invert_two_of_P :
    toNat (invert [2, 0, 0, 0, 0, 0, 0, 0] (ModInfo.new P)) < toNat P ∧
      toNat (invert [2, 0, 0, 0, 0, 0, 0, 0] (ModInfo.new P)) *
        toNat [2, 0, 0, 0, 0, 0, 0, 0] % toNat P = 1 ∧
      ∀ k < 20, RoundFits (ModInfo.new P) ((Model.SafeGcd.round (ModInfo.new P))^[k]
        (init (ModInfo.new P) [2, 0, 0, 0, 0, 0, 0, 0])) :=
  invert_of_coprime rfl rfl (by decide) (by decide) (by decide) (by decide)

end EspMid.P256.Inversion
