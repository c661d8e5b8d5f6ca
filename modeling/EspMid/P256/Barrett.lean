import EspMid.Lib.Barrett
import EspMid.Model.Scalar32
import EspMid.P256.Primes

/-! # The reduction modulo the order

The words of the source's Barrett reduction are the numbers of the general one: the nine high words
of the first product are the estimated quotient, the second product is cut off at nine words, and
the difference wraps back to the number below three times the order that it stands for
(`toNat_barrettReduce`). -/

namespace EspMid.P256.Barrett

open EspMid.Lib.Barrett EspMid.Lib.Limbs EspMid.Lib.Words EspMid.Model.Field32
open EspMid.Model.Scalar32 EspMid.P256.Chains EspMid.P256.Primes

theorem toNat_MODULUS : toNat MODULUS = n := by decide

theorem toNat_nineN : toNat nineN = n := by decide

theorem toNat_MU32 : toNat MU32 = (2 ^ 32) ^ 7 * (2 ^ 32) ^ 9 / n := by decide

theorem n_lt : n < 2 ^ 256 := by decide

/-! ### Less the order -/

theorem select_zero (x y : UInt32) : (x &&& 0) ||| (y &&& ~~~(0 : UInt32)) = y := by
  simp

theorem select_ones (x y : UInt32) :
    (x &&& 0xFFFFFFFF) ||| (y &&& ~~~(0xFFFFFFFF : UInt32)) = x := by
  have h1 : (0xFFFFFFFF : UInt32) = -1 := rfl
  rw [h1]
  simp

theorem map_snd_zip_eq {α β : Type*} {xs : List α} {ys : List β} (h : xs.length = ys.length)
    (f : α × β → β) (hf : ∀ z, f z = z.2) : (xs.zip ys).map f = ys := by
  rw [List.map_congr_left fun z _ => hf z]
  exact List.map_snd_zip h.ge

theorem map_fst_zip_eq {α β : Type*} {xs : List α} {ys : List β} (h : xs.length = ys.length)
    (f : α × β → α) (hf : ∀ z, f z = z.1) : (xs.zip ys).map f = xs := by
  rw [List.map_congr_left fun z _ => hf z]
  exact List.map_fst_zip h.le

theorem subtractNIfNecessary_spec {r : List UInt32} (hr : r.length = 9) :
    (subtractNIfNecessary r).length = 9 ∧ toNat (subtractNIfNecessary r) = less n (toNat r) := by
  have hlen : r.length = nineN.length := hr.trans rfl
  obtain ⟨hv, hb⟩ := sbb_chain hlen (Or.inl rfl : Borrow 0)
  have hwl : (carry sbbStep (r.zip nineN) 0).1.length = 9 := by
    rw [length_carry, List.length_zip, hr]
    rfl
  rw [hr, toNat_nineN, show bit 0 = 0 from rfl] at hv
  unfold subtractNIfNecessary
  simp only
  generalize carry sbbStep (r.zip nineN) 0 = w at hv hb hwl ⊢
  have hwlt := toNat_lt w.1
  have hrlt := toNat_lt r
  rw [hwl] at hwlt
  rw [hr] at hrlt
  obtain h0 | h1 := hb
  · -- no borrow: the difference
    rw [h0, map_snd_zip_eq (hr.trans hwl.symm) _ fun z => select_zero z.1 z.2]
    rw [h0, show bit 0 = 0 from rfl] at hv
    refine ⟨hwl, ?_⟩
    rw [less, if_neg (by omega)]
    omega
  · -- a borrow: what was there
    rw [h1, map_fst_zip_eq (hr.trans hwl.symm) _ fun z => select_ones z.1 z.2]
    rw [h1, show bit 0xFFFFFFFF = 1 from rfl] at hv
    refine ⟨hr, ?_⟩
    rw [less, if_pos (by omega)]

/-! ### The two products -/

theorem toNat_take_succ {xs : List UInt32} {i : ℕ} (hi : i < xs.length) :
    toNat (xs.take (i + 1)) = toNat (xs.take i) + (2 ^ 32) ^ i * (xs.getD i 0).toNat := by
  rw [List.take_succ_eq_append_getElem hi, toNat_append, List.length_take_of_le hi.le,
    toNat_cons, show toNat [] = 0 from rfl, List.getD_eq_getElem _ _ hi, mul_zero, add_zero]

/-- Before row `i` of the first product. -/
structure Q2 (q1 : List UInt32) (i : ℕ) (q2 : List UInt32) : Prop where
  length : q2.length = 18
  above : q2.drop (i + 9) = List.replicate (9 - i) 0
  value : toNat q2 = toNat (q1.take i) * toNat MU32

theorem Q2.step {q1 : List UInt32} (hq : q1.length = 9) {i : ℕ} (hi : i < 9) {q2 : List UInt32}
    (h : Q2 q1 i q2) : Q2 q1 (i + 1) (q2Row q1 q2 i) := by
  have hlen := h.length
  have hmu : MU32.length = 9 := rfl
  have hz : q2.getD (i + MU32.length) 0 = 0 := getD_of_drop_zero h.above (by omega)
  obtain ⟨hrow, hval, habove⟩ := mac_row (q1.getD i 0) (t := q2) (i := i) (by omega) hz
  refine ⟨hrow.trans hlen, ?_, ?_⟩
  · rw [q2Row, habove _ (by omega), show i + 1 + 9 = i + 9 + 1 by omega, ← List.drop_drop,
      h.above, List.drop_replicate]
    congr 1
  · rw [q2Row, hval, h.value, toNat_take_succ (by omega)]
    ring

theorem q2_spec {q1 : List UInt32} (hq : q1.length = 9) :
    ((List.range 9).foldl (q2Row q1) (List.replicate 18 0)).length = 18 ∧
      toNat ((List.range 9).foldl (q2Row q1) (List.replicate 18 0)) = toNat q1 * toNat MU32 := by
  have hzero : Q2 q1 0 (List.replicate 18 0) :=
    ⟨rfl, rfl, by rw [toNat_replicate_zero, List.take_zero]; exact (Nat.zero_mul _).symm⟩
  have h := range_loop (fun _ hi _ h => Q2.step hq hi h) hzero
  have hval := h.value
  rw [List.take_of_length_le hq.le] at hval
  exact ⟨h.length, hval⟩

/-- A product cut off at nine words has lost multiples of their base only. -/
theorem cut_modEq (xs : List UInt32) {i : ℕ} (hi : i ≤ 9) (hx : 9 - i ≤ xs.length) :
    (2 ^ 32) ^ i * toNat (xs.take (9 - i)) ≡ (2 ^ 32) ^ i * toNat xs [MOD (2 ^ 32) ^ 9] := by
  have hsplit := value_take_add_drop (2 ^ 32) UInt32.toNat xs hx
  have hpow : ((2 : ℕ) ^ 32) ^ 9 = (2 ^ 32) ^ i * (2 ^ 32) ^ (9 - i) := by
    rw [← pow_add]
    congr 1
    omega
  change toNat (xs.take (9 - i)) + (2 ^ 32) ^ (9 - i) * toNat (xs.drop (9 - i)) = toNat xs at hsplit
  rw [← hsplit, hpow]
  refine Nat.ModEq.mul_left' _ ?_
  exact (Nat.add_mul_mod_self_left _ _ _).symm

theorem r2Row_spec (q3 : List UInt32) {r2 : List UInt32} (hr : r2.length = 9) {i : ℕ} (hi : i < 9) :
    (r2Row q3 r2 i).length = 9 ∧
      toNat (r2Row q3 r2 i) ≡ toNat r2 + (2 ^ 32) ^ i * (q3.getD i 0).toNat * n
        [MOD (2 ^ 32) ^ 9] := by
  have hn : (nineN.take (9 - i)).length = 9 - i := List.length_take_of_le (by
    rw [show nineN.length = 9 from rfl]
    omega)
  have hwin : (window r2 i (9 - i)).length = (nineN.take (9 - i)).length := by
    rw [length_window (by omega), hn]
  have hv := mac_chain hwin (q3.getD i 0) 0
  rw [hwin, hn, show UInt32.toNat 0 = 0 from rfl, add_zero] at hv
  have hol : (carry (macStep (q3.getD i 0))
      ((window r2 i (9 - i)).zip (nineN.take (9 - i))) 0).1.length = 9 - i := by
    rw [length_carry, List.length_zip, hwin, min_self, hn]
  have hcut := cut_modEq nineN hi.le (by rw [show nineN.length = 9 from rfl]; omega)
  rw [toNat_nineN] at hcut
  unfold r2Row
  generalize carry (macStep (q3.getD i 0))
    ((window r2 i (9 - i)).zip (nineN.take (9 - i))) 0 = r at hv hol ⊢
  have hfit : i + r.1.length ≤ r2.length := by omega
  refine ⟨(length_patch hfit).trans hr, ?_⟩
  have hp := value_patch ((2 : ℤ) ^ 32) int hfit
  rw [hol, ← cast_toNat, ← cast_toNat, ← cast_toNat, ← cast_toNat] at hp
  -- the row in full, the carry that the source drops included
  have hfull : toNat (patch r2 i r.1) + (2 ^ 32) ^ 9 * r.2.toNat =
      toNat r2 + (q3.getD i 0).toNat * ((2 ^ 32) ^ i * toNat (nineN.take (9 - i))) := by
    have hcarry : (toNat r.1 : ℤ) + (2 ^ 32) ^ (9 - i) * (r.2.toNat : ℤ) =
        toNat (window r2 i (9 - i)) + toNat (nineN.take (9 - i)) * (q3.getD i 0).toNat := by
      exact_mod_cast hv
    have hpow : ((2 : ℤ) ^ 32) ^ 9 = (2 ^ 32) ^ i * (2 ^ 32) ^ (9 - i) := by
      rw [← pow_add]
      congr 1
      omega
    zify
    rw [hp, hpow]
    linear_combination (2 ^ 32) ^ i * hcarry
  have hdrop : toNat (patch r2 i r.1) ≡
      toNat (patch r2 i r.1) + (2 ^ 32) ^ 9 * r.2.toNat [MOD (2 ^ 32) ^ 9] :=
    (Nat.add_mul_mod_self_left _ _ _).symm
  have hrow := (hcut.mul_left (q3.getD i 0).toNat).add_left (toNat r2)
  rw [← hfull] at hrow
  rw [mul_comm ((2 ^ 32) ^ i) (q3.getD i 0).toNat, mul_assoc]
  exact hdrop.trans hrow

/-- Before row `i` of the second product. -/
structure R2 (q3 : List UInt32) (i : ℕ) (r2 : List UInt32) : Prop where
  length : r2.length = 9
  value : toNat r2 ≡ toNat (q3.take i) * n [MOD (2 ^ 32) ^ 9]

theorem R2.step {q3 : List UInt32} (hq : q3.length = 9) {i : ℕ} (hi : i < 9) {r2 : List UInt32}
    (h : R2 q3 i r2) : R2 q3 (i + 1) (r2Row q3 r2 i) := by
  obtain ⟨hlen, hrow⟩ := r2Row_spec q3 h.length hi
  refine ⟨hlen, hrow.trans ?_⟩
  rw [toNat_take_succ (by omega), add_mul]
  exact h.value.add_right _

theorem r2_spec {q3 : List UInt32} (hq : q3.length = 9) :
    ((List.range 9).foldl (r2Row q3) (List.replicate 9 0)).length = 9 ∧
      toNat ((List.range 9).foldl (r2Row q3) (List.replicate 9 0)) ≡ toNat q3 * n
        [MOD (2 ^ 32) ^ 9] := by
  have hzero : R2 q3 0 (List.replicate 9 0) := by
    refine ⟨rfl, ?_⟩
    rw [toNat_replicate_zero, List.take_zero, show toNat [] = 0 from rfl, zero_mul]
  have h := range_loop (fun _ hi _ h => R2.step hq hi h) hzero
  have hval := h.value
  rw [List.take_of_length_le hq.le] at hval
  exact ⟨h.length, hval⟩

/-! ### The whole reduction -/

theorem toNat_drop {xs : List UInt32} {i : ℕ} (hi : i ≤ xs.length) :
    toNat (xs.drop i) = toNat xs / (2 ^ 32) ^ i := by
  have hsplit := value_take_add_drop (2 ^ 32) UInt32.toNat xs hi
  change toNat (xs.take i) + (2 ^ 32) ^ i * toNat (xs.drop i) = toNat xs at hsplit
  have hlt := toNat_lt (xs.take i)
  rw [List.length_take_of_le hi] at hlt
  rw [← hsplit, Nat.add_mul_div_left _ _ (by positivity), Nat.div_eq_of_lt hlt, zero_add]

theorem toNat_take_modEq {xs : List UInt32} {i : ℕ} (hi : i ≤ xs.length) :
    toNat (xs.take i) ≡ toNat xs [MOD (2 ^ 32) ^ i] := by
  have hsplit := value_take_add_drop (2 ^ 32) UInt32.toNat xs hi
  change toNat (xs.take i) + (2 ^ 32) ^ i * toNat (xs.drop i) = toNat xs at hsplit
  rw [← hsplit]
  exact (Nat.add_mul_mod_self_left _ _ _).symm

/-- The difference before the subtractions is the input less the estimated multiple. -/
theorem difference {a r2 : List UInt32} {q3 : ℕ} (ha : a.length = 16) (hr : r2.length = 9)
    (hr2 : toNat r2 ≡ q3 * n [MOD (2 ^ 32) ^ 9]) (hle : q3 * n ≤ toNat a)
    (hlt : toNat a < (q3 + 3) * n) :
    toNat (carry sbbStep ((a.take 9).zip r2) 0).1 = toNat a - q3 * n := by
  have htl : (a.take 9).length = 9 := List.length_take_of_le (by omega)
  obtain ⟨hv, -⟩ := sbb_chain (htl.trans hr.symm) (Or.inl rfl : Borrow 0)
  rw [htl, show bit 0 = 0 from rfl, add_zero] at hv
  have hol : (carry sbbStep ((a.take 9).zip r2) 0).1.length = 9 := by
    rw [length_carry, List.length_zip, htl, hr, min_self]
  generalize carry sbbStep ((a.take 9).zip r2) 0 = r at hv hol ⊢
  have hrlt := toNat_lt r.1
  rw [hol] at hrlt
  -- the two are congruent, and both below the ninth power
  have hmod : toNat r.1 + q3 * n ≡ toNat a [MOD (2 ^ 32) ^ 9] := by
    refine ((hr2.symm.add_left (toNat r.1)).trans ?_).trans (toNat_take_modEq (by omega))
    rw [hv]
    exact Nat.add_mul_mod_self_left _ _ _
  have hn := n_lt
  have hsmall : toNat a - q3 * n < (2 ^ 32) ^ 9 := by
    have : 3 * n < (2 ^ 32) ^ 9 := by omega
    rw [add_mul] at hlt
    omega
  have hsub : toNat r.1 ≡ toNat a - q3 * n [MOD (2 ^ 32) ^ 9] := by
    refine Nat.ModEq.add_right_cancel' (q3 * n) ?_
    rwa [Nat.sub_add_cancel hle]
  exact Nat.ModEq.eq_of_lt_of_lt hsub hrlt hsmall

/-- **The reduction modulo the order** of every number of sixteen words. -/
theorem toNat_barrettReduce {lo hi : List UInt32} (hlo : lo.length = 8) (hhi : hi.length = 8) :
    (barrettReduce lo hi).length = 8 ∧
      toNat (barrettReduce lo hi) = (toNat lo + 2 ^ 256 * toNat hi) % n := by
  have hal : (lo ++ hi).length = 16 := by rw [List.length_append, hlo, hhi]
  have hval : toNat (lo ++ hi) = toNat lo + 2 ^ 256 * toNat hi := by
    rw [toNat_append, hlo, show ((2 : ℕ) ^ 32) ^ 8 = 2 ^ 256 by norm_num]
  rw [← hval]
  unfold barrettReduce
  simp only
  generalize lo ++ hi = a at hal ⊢
  have halt : toNat a < (2 ^ 32) ^ 7 * (2 ^ 32) ^ 9 := by
    have := toNat_lt a
    rwa [hal, show (16 : ℕ) = 7 + 9 from rfl, pow_add] at this
  have hq1 : (a.drop 7).length = 9 := by rw [List.length_drop, hal]
  obtain ⟨hq2l, hq2⟩ := q2_spec hq1
  generalize (List.range 9).foldl (q2Row (a.drop 7)) (List.replicate 18 0) = q2 at hq2l hq2 ⊢
  have hq3 : (q2.drop 9).length = 9 := by rw [List.length_drop, hq2l]
  obtain ⟨hr2l, hr2⟩ := r2_spec hq3
  have hest : toNat (q2.drop 9) = estimate ((2 ^ 32) ^ 7) ((2 ^ 32) ^ 9) n (toNat a) := by
    rw [toNat_drop (by omega), hq2, toNat_drop (by omega), toNat_MU32]
    rfl
  have hle : toNat (q2.drop 9) * n ≤ toNat a := hest ▸ estimate_le (by positivity)
  have hlt : toNat a < (toNat (q2.drop 9) + 3) * n := by
    rw [hest]
    exact lt_estimate (by positivity) (by positivity) (by decide) (by decide) halt
  generalize (List.range 9).foldl (r2Row (q2.drop 9)) (List.replicate 9 0) = r2 at hr2l hr2 ⊢
  have hdiff := difference hal hr2l hr2 hle hlt
  have hol : (carry sbbStep ((a.take 9).zip r2) 0).1.length = 9 := by
    rw [length_carry, List.length_zip, List.length_take_of_le (by omega), hr2l, min_self]
  generalize (carry sbbStep ((a.take 9).zip r2) 0).1 = r at hdiff hol ⊢
  obtain ⟨hs1, hv1⟩ := subtractNIfNecessary_spec hol
  obtain ⟨hs2, hv2⟩ := subtractNIfNecessary_spec hs1
  have hres : toNat (subtractNIfNecessary (subtractNIfNecessary r)) = toNat a % n := by
    rw [hv2, hv1, hdiff, reduced (by rw [add_mul] at hlt; omega), mul_comm,
      Nat.sub_mul_mod (by rwa [mul_comm])]
  refine ⟨List.length_take_of_le (by omega), ?_⟩
  -- the ninth word is zero
  have hmod := toNat_take_modEq (i := 8) (hs2.ge.trans' (by omega))
  have hn := n_lt
  have hrem : toNat a % n < n := Nat.mod_lt _ (by decide)
  have htake := toNat_lt ((subtractNIfNecessary (subtractNIfNecessary r)).take 8)
  rw [List.length_take_of_le (by omega)] at htake
  rw [hres] at hmod
  exact Nat.ModEq.eq_of_lt_of_lt hmod htake (by omega)

/-- **The reduction** of sixteen words gives the words of the remainder. -/
theorem barrettReduce_eq_ofNat {lo hi : List UInt32} (hlo : lo.length = 8) (hhi : hi.length = 8) :
    barrettReduce lo hi = ofNat 8 ((toNat lo + 2 ^ 256 * toNat hi) % n) := by
  obtain ⟨hlen, hval⟩ := toNat_barrettReduce hlo hhi
  have hlt : (toNat lo + 2 ^ 256 * toNat hi) % n < (2 ^ 32) ^ 8 := by
    have hmod := Nat.mod_lt (toNat lo + 2 ^ 256 * toNat hi) prime_n.pos
    have hn := n_lt
    omega
  refine toNat_inj (hlen.trans (length_ofNat 8 _).symm) ?_
  rw [hval, toNat_ofNat_of_lt hlt]

theorem barrettReduce_eq_ofNat_top :
    barrettReduce (List.replicate 8 0) (List.replicate 8 0xFFFFFFFF) =
      ofNat 8 ((toNat (List.replicate 8 0) + 2 ^ 256 * toNat (List.replicate 8 0xFFFFFFFF)) % n) :=
  barrettReduce_eq_ofNat rfl rfl

end EspMid.P256.Barrett
