import EspMid.P256.Chains

/-! # The field's operations on limbs

Each operation on reduced limbs gives reduced limbs, and the number they hold is the one of the
residue (`toNat_feAdd`, `toNat_feSub`, `feMulRust_spec`). The multiply divides by `R = 2 ^ 256`:
every round of the CIOS is a round of the general reduction, and its ten words do not overflow
because the number stays below twice the modulus. -/

namespace EspMid.P256.Field

open EspMid.Lib.Limbs EspMid.Lib.Words EspMid.Lib.Montgomery EspMid.Model.Field32
open EspMid.P256.Chains

/-- The field's modulus. -/
def p : ℕ := 2 ^ 256 - 2 ^ 224 + 2 ^ 192 + 2 ^ 96 - 1

theorem toNat_P : toNat P = p := by decide

theorem length_P : P.length = 8 := rfl

theorem p_lt : p < 2 ^ 256 := by decide

theorem p_pos : 0 < p := by decide

/-- Reduced limbs. -/
structure Reduced (a : Fe) : Prop where
  length : a.length = 8
  lt : toNat a < p

/-! ### Less the modulus -/

theorem length_maskedP (m : UInt32) : (maskedP m).length = 8 := rfl

theorem toNat_maskedP {b : UInt32} (h : Borrow b) : toNat (maskedP b) = bit b * p := by
  obtain rfl | rfl := h <;> decide

theorem add_back {w : Fe} (hw : w.length = 8) {b : UInt32} (hb : Borrow b) :
    ∃ c : UInt32, toNat (carry adcStep (w.zip (maskedP b)) 0).1 + 2 ^ 256 * c.toNat =
      toNat w + bit b * p ∧ (carry adcStep (w.zip (maskedP b)) 0).1.length = 8 := by
  have hlen : w.length = (maskedP b).length := by rw [hw, length_maskedP]
  have hv := adc_chain hlen 0
  rw [hw, toNat_maskedP hb] at hv
  refine ⟨_, by simpa using hv, ?_⟩
  rw [length_carry, List.length_zip, hw, length_maskedP, min_self]

theorem toNat_lt_of_length {w : Fe} (h : w.length = 8) : toNat w < 2 ^ 256 := by
  have := toNat_lt w
  rw [h] at this
  exact this

theorem subP_spec {t : List UInt32} (ht : t.length = 9) (hlt : toNat t < 2 * p) :
    (subP t).length = 8 ∧ toNat (subP t) = toNat t % p := by
  have hp := p_lt
  have htop := toNat_take_add (k := 8) ht
  have htake : (t.take 8).length = P.length := by rw [List.length_take_of_le (by omega)]; rfl
  obtain ⟨hw, hb⟩ := sbb_chain htake (Or.inl rfl : Borrow 0)
  have hwl : (carry sbbStep ((t.take 8).zip P) 0).1.length = 8 := by
    rw [length_carry, List.length_zip, htake, min_self]
    rfl
  unfold subP
  simp only
  rw [htake, length_P, toNat_P, show bit 0 = 0 from rfl] at hw
  generalize carry sbbStep ((t.take 8).zip P) 0 = w at hw hb hwl ⊢
  obtain ⟨htop', hb'⟩ := sbb32_eq (t.getD 8 0) 0 hb
  generalize sbb32 (t.getD 8 0) 0 w.2 = s at htop' hb' ⊢
  obtain ⟨c, hc, hlen⟩ := add_back hwl hb'
  refine ⟨hlen, ?_⟩
  have hrlt := toNat_lt_of_length hlen
  generalize toNat (carry adcStep (w.1.zip (maskedP s.2)) 0).1 = r at hc hrlt ⊢
  have hwlt := toNat_lt_of_length hwl
  have htlt := toNat_lt_of_length (htake.trans length_P)
  have hslt := s.1.toNat_lt
  have hbit := hb'.bit_le
  have hbit' := hb.bit_le
  rw [show UInt32.toNat 0 = 0 from rfl] at htop'
  have hpow : ((2 : ℕ) ^ 32) ^ 8 = 2 ^ 256 := by norm_num
  rw [hpow] at hw htop
  obtain h0 | h1 : bit s.2 = 0 ∨ bit s.2 = 1 := by omega
  · -- no borrow at the top: the modulus was taken off
    rw [h0] at hc htop'
    have hr : r = toNat t - p := by omega
    rw [hr, Nat.mod_eq_sub_mod (by omega), Nat.mod_eq_of_lt (by omega)]
  · -- a borrow: the modulus was added back
    rw [h1] at hc htop'
    have hr : r = toNat t := by omega
    rw [hr, Nat.mod_eq_of_lt (by omega)]

theorem Reduced.subP {t : List UInt32} (ht : t.length = 9) (hlt : toNat t < 2 * p) :
    Reduced (subP t) := by
  obtain ⟨hlen, hval⟩ := subP_spec ht hlt
  exact ⟨hlen, hval ▸ Nat.mod_lt _ p_pos⟩

/-! ### Sums and differences -/

variable {a b : Fe}

theorem feAdd_words (ha : Reduced a) (hb : Reduced b) :
    ∃ t : List UInt32, t.length = 9 ∧ toNat t = toNat a + toNat b ∧ feAdd a b = subP t := by
  refine ⟨_, ?_, ?_, rfl⟩
  · rw [List.length_append, length_carry, List.length_zip, ha.length, hb.length]
    rfl
  · have hv := adc_chain (ha.length.trans hb.length.symm) 0
    rw [toNat_append, length_carry, List.length_zip, ← ha.length.trans hb.length.symm, min_self,
      toNat_cons]
    simpa [Lib.Words.toNat] using hv

theorem toNat_feAdd (ha : Reduced a) (hb : Reduced b) :
    toNat (feAdd a b) = (toNat a + toNat b) % p := by
  obtain ⟨t, ht, hval, heq⟩ := feAdd_words ha hb
  have hlt : toNat t < 2 * p := by have := ha.lt; have := hb.lt; omega
  rw [heq, (subP_spec ht hlt).2, hval]

theorem Reduced.add (ha : Reduced a) (hb : Reduced b) : Reduced (feAdd a b) := by
  obtain ⟨t, ht, hval, heq⟩ := feAdd_words ha hb
  have hlt : toNat t < 2 * p := by have := ha.lt; have := hb.lt; omega
  exact heq ▸ Reduced.subP ht hlt

theorem feSub_spec (ha : Reduced a) (hb : Reduced b) :
    (feSub a b).length = 8 ∧ toNat (feSub a b) = (toNat a + p - toNat b) % p := by
  have hp := p_lt
  obtain ⟨hw, hbo⟩ := sbb_chain (ha.length.trans hb.length.symm) (Or.inl rfl : Borrow 0)
  have hwl : (carry sbbStep (a.zip b) 0).1.length = 8 := by
    rw [length_carry, List.length_zip, ha.length, hb.length, min_self]
  rw [ha.length, show bit 0 = 0 from rfl] at hw
  unfold feSub
  simp only
  generalize carry sbbStep (a.zip b) 0 = w at hw hbo hwl ⊢
  obtain ⟨c, hc, hlen⟩ := add_back hwl hbo
  refine ⟨hlen, ?_⟩
  have hrlt := toNat_lt_of_length hlen
  generalize toNat (carry adcStep (w.1.zip (maskedP w.2)) 0).1 = r at hc hrlt ⊢
  have hwlt := toNat_lt_of_length hwl
  have hbit := hbo.bit_le
  have hpow : ((2 : ℕ) ^ 32) ^ 8 = 2 ^ 256 := by norm_num
  rw [hpow] at hw
  have hal := ha.lt
  have hbl := hb.lt
  obtain h0 | h1 : bit w.2 = 0 ∨ bit w.2 = 1 := by omega
  · rw [h0] at hc hw
    have hr : r = toNat a + p - toNat b - p := by omega
    rw [hr, Nat.mod_eq_sub_mod (by omega), Nat.mod_eq_of_lt (by omega)]
  · rw [h1] at hc hw
    have hr : r = toNat a + p - toNat b := by omega
    rw [hr, Nat.mod_eq_of_lt (by omega)]

theorem toNat_feSub (ha : Reduced a) (hb : Reduced b) :
    toNat (feSub a b) = (toNat a + p - toNat b) % p :=
  (feSub_spec ha hb).2

theorem Reduced.sub (ha : Reduced a) (hb : Reduced b) : Reduced (feSub a b) :=
  ⟨(feSub_spec ha hb).1, toNat_feSub ha hb ▸ Nat.mod_lt _ p_pos⟩

theorem Reduced.ofNat {h : ℕ} (hlt : h < p) : Reduced (ofNat 8 h) :=
  ⟨length_ofNat 8 h, by rwa [toNat_ofNat_of_lt (hlt.trans p_lt)]⟩

theorem Reduced.zero : Reduced (List.replicate 8 0) := ⟨rfl, by decide⟩

theorem toNat_feNeg (hb : Reduced b) : toNat (feNeg b) = (p - toNat b) % p := by
  rw [feNeg, toNat_feSub Reduced.zero hb, toNat_replicate_zero, zero_add]

theorem Reduced.neg (hb : Reduced b) : Reduced (feNeg b) := Reduced.zero.sub hb

/-! ### A round of the multiply -/

theorem mFf_le (m : UInt32) : (mFf m).toNat ≤ (2 ^ 32 - 1) * (2 ^ 32 - 1) := by
  have := m.toNat_lt
  rw [mFf, toNat_all_ones]
  omega

theorem mP_le (m : UInt32) : ∀ z ∈ mP m, z.toNat ≤ (2 ^ 32 - 1) * (2 ^ 32 - 1) := by
  have hff := mFf_le m
  have hm : m.toUInt64.toNat ≤ (2 ^ 32 - 1) * (2 ^ 32 - 1) := by
    have := m.toNat_lt
    rw [toNat_wide]
    omega
  have hzero : (0 : UInt64).toNat ≤ (2 ^ 32 - 1) * (2 ^ 32 - 1) := Nat.zero_le _
  simp only [mP, List.forall_mem_cons]
  exact ⟨hff, hff, hzero, hzero, hzero, hm, hff, fun _ h => absurd h List.not_mem_nil⟩

/-- Word 0 of `m * p` is `m` carried less `m`, and the words of `mP` are the others. -/
theorem value_mP (m : UInt32) :
    2 ^ 32 * (m.toNat + value (2 ^ 32) UInt64.toNat (mP m)) = m.toNat + m.toNat * p := by
  have hff : (mFf m).toNat = (2 ^ 32 - 1) * m.toNat := toNat_all_ones m
  simp only [mP, value_cons, value_nil, hff, toNat_wide, show UInt64.toNat 0 = 0 from rfl, p]
  norm_num
  ring

theorem reduceRound_spec {t : List UInt32} (ht : t.length = 10) (hlt : toNat t < 2 ^ 290) :
    (reduceRound t).length = 9 ∧
      2 ^ 32 * toNat (reduceRound t) = toNat t + (t.getD 0 0).toNat * p := by
  have hp := p_lt
  have hhead := toNat_getD_add (t := t) (by rintro rfl; simp at ht)
  have hdrop : (t.drop 1).length = 8 + 1 := by rw [List.length_drop, ht]
  have htail := toNat_take_add hdrop
  have htop : (t.drop 1).getD 8 0 = t.getD 9 0 := by
    rw [List.getD_eq_getElem?_getD, List.getElem?_drop, List.getD_eq_getElem?_getD]
  rw [htop] at htail
  have hwl : (window t 1 8).length = (mP (t.getD 0 0) ++ [0]).length :=
    length_window (by omega)
  have hz : ∀ z ∈ mP (t.getD 0 0) ++ [0], z.toNat ≤ (2 ^ 32 - 1) * (2 ^ 32 - 1) := by
    intro z hz
    rcases List.mem_append.mp hz with hz | hz
    · exact mP_le _ z hz
    · obtain rfl : z = 0 := by simpa using hz
      simp
  have hm := (t.getD 0 0).toNat_lt
  obtain ⟨hv, hcl⟩ := wide_chain hwl hz (c := (t.getD 0 0).toUInt64) (by rw [toNat_wide]; exact hm)
  have hlen8 : (window t 1 8).length = 8 := length_window (by omega)
  have hval : value (2 ^ 32) UInt64.toNat (mP (t.getD 0 0) ++ [0]) =
      value (2 ^ 32) UInt64.toNat (mP (t.getD 0 0)) := by
    rw [value_append]
    simp
  have hmP := value_mP (t.getD 0 0)
  rw [hval, hlen8, toNat_wide] at hv
  have hol : (carry wideStep ((window t 1 8).zip (mP (t.getD 0 0) ++ [0]))
      (t.getD 0 0).toUInt64).1.length = 8 := by
    rw [length_carry, List.length_zip, ← hwl, min_self, hlen8]
  unfold reduceRound
  simp only
  generalize carry wideStep ((window t 1 8).zip (mP (t.getD 0 0) ++ [0]))
    (t.getD 0 0).toUInt64 = r at hv hcl hol ⊢
  have hwin : toNat (window t 1 8) < 2 ^ 256 := toNat_lt_of_length hlen8
  have hout : toNat r.1 < 2 ^ 256 := toNat_lt_of_length hol
  change toNat (window t 1 8) + _ = _ at htail
  have hpow : ((2 : ℕ) ^ 32) ^ 8 = 2 ^ 256 := by norm_num
  rw [hpow] at hv htail
  have hmp : (t.getD 0 0).toNat * p ≤ (2 ^ 32 - 1) * p := Nat.mul_le_mul_right p (by omega)
  generalize value (2 ^ 32) UInt64.toNat (mP (t.getD 0 0)) = v at hv hmP
  generalize (t.getD 0 0).toNat * p = mp at hmP hmp ⊢
  -- the last word does not overflow
  have ht9 : (t.getD 9 0).toNat < 4 := by omega
  have hc : r.2.toNat ≤ 2 := by omega
  have hsum : (t.getD 9 0 + r.2.toUInt32).toNat = (t.getD 9 0).toNat + r.2.toNat := by
    rw [UInt32.toNat_add, toNat_low, Nat.mod_eq_of_lt hcl]
    exact Nat.mod_eq_of_lt (by omega)
  refine ⟨by rw [List.length_append, hol]; rfl, ?_⟩
  rw [toNat_append, hol, toNat_cons, hsum, hpow]
  change 2 ^ 32 * (toNat r.1 + 2 ^ 256 * ((t.getD 9 0).toNat + r.2.toNat + 2 ^ 32 * 0)) = _
  linear_combination 2 ^ 32 * hv + hmP + 2 ^ 32 * htail + hhead

/-- The nine words between two rounds. -/
def Between (t : List UInt32) : Prop := t.length = 9 ∧ toNat t < 2 * p

/-- The ten words after the products of a round. -/
theorem mulRound_words {t : List UInt32} (ht : t.length = 9) (ha : a.length = 8) (bi : UInt32) :
    ∃ w : List UInt32, w.length = 10 ∧ toNat w = toNat t + toNat a * bi.toNat ∧
      mulRound a t bi = reduceRound w := by
  refine ⟨_, ?_, ?_, rfl⟩
  · rw [List.length_append, length_carry, List.length_zip, List.length_take_of_le (by omega), ha]
    rfl
  · have htake : (t.take 8).length = a.length := by rw [List.length_take_of_le (by omega), ha]
    have hv := mac_chain htake bi 0
    have htail := toNat_take_add (k := 8) ht
    have htop := adc32_eq (t.getD 8 0) (carry (macStep bi) ((t.take 8).zip a) 0).2 0
    rw [htake, ha, show UInt32.toNat 0 = 0 from rfl] at hv
    rw [show UInt32.toNat 0 = 0 from rfl] at htop
    have hlen : (carry (macStep bi) ((t.take 8).zip a) 0).1.length = 8 := by
      rw [length_carry, List.length_zip, htake, min_self, ha]
    rw [toNat_append, hlen, toNat_cons, toNat_cons, show toNat [] = 0 from rfl]
    linear_combination hv + htail + (2 ^ 32) ^ 8 * htop

theorem mulRound_spec {t : List UInt32} (ht : Between t) (ha : Reduced a) (bi : UInt32) :
    Between (mulRound a t bi) ∧
      Round (2 ^ 32) p (toNat a * bi.toNat) (toNat t) (toNat (mulRound a t bi)) := by
  obtain ⟨w, hw, hval, heq⟩ := mulRound_words ht.1 ha.length bi
  have hp := p_lt
  have hbi := bi.toNat_lt
  have htlt := ht.2
  have hprod : toNat a * bi.toNat ≤ p * 2 ^ 32 := Nat.mul_le_mul ha.lt.le hbi.le
  obtain ⟨hlen, hred⟩ := reduceRound_spec hw (by omega)
  have hround : Round (2 ^ 32) p (toNat a * bi.toNat) (toNat t) (toNat (mulRound a t bi)) :=
    ⟨_, (w.getD 0 0).toNat_lt, by rw [heq, hred, hval]⟩
  exact ⟨⟨heq ▸ hlen, hround.lt ha.lt hbi htlt⟩, hround⟩

theorem mulRounds_spec (ha : Reduced a) (hb : b.length = 8) :
    Between (b.foldl (mulRound a) (List.replicate 9 0)) ∧
      Rounds (2 ^ 32) p 8 (toNat a * toNat b) 0
        (toNat (b.foldl (mulRound a) (List.replicate 9 0))) := by
  have hzero : Between (List.replicate 9 0) := ⟨rfl, by decide⟩
  have hstep : ∀ t, Between t → ∀ bi : UInt32, Between (mulRound a t bi) ∧
      Round (2 ^ 32) p (toNat a * bi.toNat) (toNat t) (toNat (mulRound a t bi)) :=
    fun _ ht bi => mulRound_spec ht ha bi
  have h := rounds hstep b hzero
  rw [hb, toNat_replicate_zero] at h
  exact h

/-- **The multiply.** Reduced limbs times words are reduced limbs, and with `R` they are the
product. -/
theorem feMulRust_spec (ha : Reduced a) (hb : b.length = 8) :
    Reduced (feMulRust a b) ∧
      2 ^ 256 * toNat (feMulRust a b) ≡ toNat a * toNat b [MOD p] := by
  obtain ⟨⟨hlen, hlt⟩, hrounds⟩ := mulRounds_spec ha hb
  refine ⟨Reduced.subP hlen hlt, ?_⟩
  have hval := (subP_spec hlen hlt).2
  have hmod := hrounds.modEq
  rw [show ((2 : ℕ) ^ 32) ^ 8 = 2 ^ 256 by norm_num, zero_add] at hmod
  unfold feMulRust
  rw [hval]
  exact (Nat.ModEq.mul_left _ (Nat.mod_modEq _ _)).trans hmod

end EspMid.P256.Field
