import EspMid.P256.DivstepResidues

/-! # Words to limbs and back

Eight words of 32 bits and nine limbs of 30 hold the same number (`toS30_spec`, `fromS30_spec`), and
Newton's steps give the inverse of an odd modulus (`ModInfo.new_spec`). -/

namespace EspMid.P256.DivstepConversions

open EspMid.Lib EspMid.Lib.Limbs EspMid.Lib.Words EspMid.Lib.SignedWords
open EspMid.Model.Field32 EspMid.Model.SafeGcd EspMid.P256.DivstepLimbs EspMid.P256.DivstepResidues

/-! ### Two words -/

theorem toNat_drop (w : List UInt32) {k : ℕ} (hk : k ≤ w.length) :
    toNat (w.drop k) = toNat w / (2 ^ 32) ^ k := by
  have hv : toNat (w.take k) + (2 ^ 32) ^ k * toNat (w.drop k) = toNat w :=
    value_take_add_drop (2 ^ 32) UInt32.toNat w hk
  have hlt := toNat_lt (w.take k)
  rw [List.length_take_of_le hk] at hlt
  rw [← hv, Nat.add_mul_div_left _ _ (by positivity), Nat.div_eq_of_lt hlt, zero_add]

theorem two_words {w : List UInt32} {k : ℕ} (hk : k < w.length) :
    ∃ rest : ℕ, toNat w / (2 ^ 32) ^ k =
      (w.getD k 0).toNat + 2 ^ 32 * (w.getD (k + 1) 0).toNat + 2 ^ 64 * rest := by
  rw [← toNat_drop w hk.le, List.drop_eq_getElem_cons hk, toNat_cons, List.getD_eq_getElem _ _ hk]
  by_cases hk' : k + 1 < w.length
  · refine ⟨toNat (w.drop (k + 2)), ?_⟩
    rw [List.drop_eq_getElem_cons hk', toNat_cons, List.getD_eq_getElem _ _ hk']
    ring
  · refine ⟨0, ?_⟩
    rw [List.drop_eq_nil_of_le (by omega), List.getD_eq_default _ _ (by omega)]
    rfl

theorem toNat_shr (x : UInt64) {s : ℕ} (hs : s < 64) :
    (x >>> UInt64.ofNat s).toNat = x.toNat / 2 ^ s := by
  rw [UInt64.toNat_shiftRight, UInt64.toNat_ofNat_of_lt' (hs.trans (by decide)), Nat.mod_eq_of_lt hs,
    Nat.shiftRight_eq_div_pow]

theorem toNat_shl {x : UInt64} {s : ℕ} (hs : s < 64) (hx : x.toNat * 2 ^ s < 2 ^ 64) :
    (x <<< UInt64.ofNat s).toNat = x.toNat * 2 ^ s := by
  rw [UInt64.toNat_shiftLeft, UInt64.toNat_ofNat_of_lt' (hs.trans (by decide)), Nat.mod_eq_of_lt hs,
    Nat.shiftLeft_eq, Nat.mod_eq_of_lt hx]

theorem or_eq_add {x y s : ℕ} (hx : x < 2 ^ s) : x ||| y * 2 ^ s = x + y * 2 ^ s := by
  rw [Nat.or_comm, Nat.add_comm, ← Nat.shiftLeft_eq, Nat.shiftLeft_add_eq_or_of_lt hx]

theorem toNat_straddle (x y : UInt32) {s : ℕ} (hs : s < 32) :
    (x.toUInt64 >>> UInt64.ofNat s ||| y.toUInt64 <<< UInt64.ofNat (32 - s)).toNat =
      (x.toNat + 2 ^ 32 * y.toNat) / 2 ^ s := by
  have hpow : (2 : ℕ) ^ 32 = 2 ^ s * 2 ^ (32 - s) := by rw [← pow_add]; congr 1; omega
  have hlow : x.toNat / 2 ^ s < 2 ^ (32 - s) := by
    rw [Nat.div_lt_iff_lt_mul (by positivity), mul_comm, ← hpow]
    exact x.toNat_lt
  have hfits : y.toUInt64.toNat * 2 ^ (32 - s) < 2 ^ 64 := by
    calc y.toUInt64.toNat * 2 ^ (32 - s) ≤ y.toNat * 2 ^ 32 :=
          Nat.mul_le_mul_left _ (Nat.pow_le_pow_right (by norm_num) (by omega))
      _ < 2 ^ 64 := by
          have := y.toNat_lt
          omega
  rw [UInt64.toNat_or, toNat_shr _ (by omega), toNat_shl (by omega) hfits, toNat_wide, toNat_wide,
    or_eq_add hlow]
  generalize (2 : ℕ) ^ (32 - s) = b at hpow
  rw [hpow, mul_assoc, Nat.add_mul_div_left _ _ (by positivity), mul_comm b]

/-! ### To limbs -/

variable {w : Fe}

theorem bitsFrom_spec (hw : w.length = 8) {i : ℕ} (hi : i < 9) :
    ∃ rest : ℕ, toNat w / (2 ^ 30) ^ i = (bitsFrom w i).toNat + 2 ^ 34 * rest := by
  have hs : 30 * i % 32 ≤ 30 := by omega
  have hpow : ((2 : ℕ) ^ 30) ^ i = (2 ^ 32) ^ (30 * i / 32) * 2 ^ (30 * i % 32) := by
    rw [← pow_mul, ← pow_mul, ← pow_add, Nat.div_add_mod]
  obtain ⟨rest, hrest⟩ := two_words (w := w) (k := 30 * i / 32) (by omega)
  rw [hpow, ← Nat.div_div_eq_div_mul, hrest]
  unfold bitsFrom
  simp only
  generalize 30 * i % 32 = s at hs ⊢
  have hsplit : (2 : ℕ) ^ 64 = 2 ^ s * (2 ^ 34 * 2 ^ (30 - s)) := by
    rw [← pow_add, ← pow_add]
    congr 1
    omega
  refine ⟨2 ^ (30 - s) * rest, ?_⟩
  rw [hsplit, mul_assoc, Nat.add_mul_div_left _ _ (by positivity), mul_assoc]
  congr 1
  split
  · rw [toNat_straddle _ _ (by omega)]
  · have hs' : s < 64 := by omega
    rw [toNat_shr _ hs', List.getD_eq_default w 0 (n := 30 * i / 32 + 1) (by omega)]
    rfl

theorem limb30_low (hw : w.length = 8) {i : ℕ} (hi : i < 8) :
    (limb30 w i).toInt = (toNat w / (2 ^ 30) ^ i % 2 ^ 30 : ℕ) := by
  obtain ⟨rest, hrest⟩ := bitsFrom_spec hw (i := i) (by omega)
  have hmask := and_mask30 (bitsFrom w i).toUInt32
  rw [toNat_low] at hmask
  unfold limb30
  simp only
  rw [if_pos hi, show M30 = mask30 from rfl, toInt_toInt32 (by rw [hmask]; omega), hmask]
  congr 1
  omega

theorem limb30_last (hw : w.length = 8) : (limb30 w 8).toInt = (toNat w / 2 ^ 240 : ℕ) := by
  have hlt := toNat_lt w
  rw [hw, show ((2 : ℕ) ^ 32) ^ 8 = 2 ^ 256 by norm_num] at hlt
  obtain ⟨rest, hrest⟩ := bitsFrom_spec hw (i := 8) (by omega)
  rw [show ((2 : ℕ) ^ 30) ^ 8 = 2 ^ 240 by norm_num] at hrest
  have hfits : (bitsFrom w 8).toUInt32.toNat = (bitsFrom w 8).toNat := by
    rw [toNat_low, Nat.mod_eq_of_lt (by omega)]
  unfold limb30
  simp only
  rw [if_neg (lt_irrefl 8), toInt_toInt32 (by rw [hfits]; omega), hfits]
  congr 1
  omega

theorem value_digits {f : ℕ → Int32} {v k : ℕ}
    (h : ∀ i < k, (f i).toInt = (v / (2 ^ 30) ^ i % 2 ^ 30 : ℕ)) :
    toInt ((List.range k).map f) = (v % (2 ^ 30) ^ k : ℕ) := by
  induction k with
  | zero => simp [SignedWords.toInt, Nat.mod_one]
  | succ k ih =>
    have hmod : v % (2 ^ 30) ^ (k + 1) =
        v % (2 ^ 30) ^ k + (2 ^ 30) ^ k * (v / (2 ^ 30) ^ k % 2 ^ 30) := Nat.mod_pow_succ
    rw [List.range_succ, List.map_append, toInt_append, ih fun i hi => h i (by omega),
      List.length_map, List.length_range, List.map_singleton, toInt_cons, h k (by omega),
      show toInt [] = 0 from rfl, hmod]
    push_cast
    ring

/-- **Words to limbs.** -/
theorem toS30_spec (hw : w.length = 8) : Signed (toS30 w) (toNat w) := by
  have hdigits := value_digits (k := 8) fun i hi => limb30_low hw hi
  rw [show ((2 : ℕ) ^ 30) ^ 8 = 2 ^ 240 by norm_num] at hdigits
  have hsplit : toS30 w = (List.range 8).map (limb30 w) ++ [limb30 w 8] := by
    rw [toS30, List.range_succ, List.map_append, List.map_singleton]
  rw [hsplit]
  refine Signed.of_digits (by rw [List.length_map, List.length_range]) ?_ ?_
  · intro z hz
    obtain ⟨i, hi, rfl⟩ := List.mem_map.mp hz
    rw [limb30_low hw (List.mem_range.mp hi)]
    omega
  · rw [hdigits, limb30_last hw]
    omega

/-! ### From limbs -/

theorem toNat_modify {w : List UInt32} {k : ℕ} (hk : k < w.length) (f : UInt32 → UInt32) :
    toNat (w.modify k f) + (2 ^ 32) ^ k * (w.getD k 0).toNat =
      toNat w + (2 ^ 32) ^ k * (f (w.getD k 0)).toNat := by
  have hsplit : toNat w = toNat (w.take k) + (2 ^ 32) ^ k *
      ((w.getD k 0).toNat + 2 ^ 32 * toNat (w.drop (k + 1))) := by
    have hv := value_take_add_drop (2 ^ 32) UInt32.toNat w (i := k) hk.le
    rw [List.drop_eq_getElem_cons hk] at hv
    rw [List.getD_eq_getElem _ _ hk]
    exact hv.symm
  rw [List.modify_eq_take_cons_drop hk, toNat_append, List.length_take_of_le hk.le, toNat_cons,
    hsplit, List.getD_eq_getElem _ _ hk]
  ring

theorem getD_modify_ne {w : List UInt32} {j k : ℕ} (h : k ≠ j) (f : UInt32 → UInt32) :
    (w.modify k f).getD j 0 = w.getD j 0 := by
  rw [List.getD_eq_getElem?_getD, List.getElem?_modify_ne _ _ h, ← List.getD_eq_getElem?_getD]

theorem toNat_toUInt32 {x : Int32} {v : ℕ} (h : x.toInt = v) : x.toUInt32.toNat = v := by
  have hmod := toUInt32_modEq x
  have hx := bound32 x
  have hlt := x.toUInt32.toNat_lt
  rw [h] at hmod hx
  have hmod' : (x.toUInt32.toNat : ℤ) % 2 ^ 32 = v % 2 ^ 32 := hmod
  omega

theorem putLimb_spec {a : S30} {w : Fe} (hw : w.length = 8) {i : ℕ} (hi : i < 9)
    (hlt : toNat w < (2 ^ 30) ^ i) {v : ℕ} (hv : (a.getD i 0).toInt = v) (hfits : v < 2 ^ 30)
    (hlast : i = 8 → v < 2 ^ 16) :
    (putLimb a w i).length = 8 ∧ toNat (putLimb a w i) = toNat w + (2 ^ 30) ^ i * v := by
  have hs : 30 * i % 32 ≤ 30 := by omega
  have hpow : ((2 : ℕ) ^ 30) ^ i = (2 ^ 32) ^ (30 * i / 32) * 2 ^ (30 * i % 32) := by
    rw [← pow_mul, ← pow_mul, ← pow_add, Nat.div_add_mod]
  have hk : 30 * i / 32 < w.length := by omega
  have hend : 30 * i / 32 + 1 < 8 ∨ 30 * i / 32 = 7 ∧ 30 * i % 32 = 16 ∧ i = 8 := by omega
  obtain ⟨rest, hrest⟩ := two_words hk
  have hlow : toNat w / (2 ^ 32) ^ (30 * i / 32) < 2 ^ (30 * i % 32) := by
    rw [Nat.div_lt_iff_lt_mul (by positivity), mul_comm, ← hpow]
    exact hlt
  rw [hrest] at hlow
  unfold putLimb
  rw [hpow]
  simp only
  generalize 30 * i % 32 = s at hs hlow hend ⊢
  generalize 30 * i / 32 = k at hk hlow hend ⊢
  have hword := toNat_toUInt32 hv
  have hs32 : (2 : ℕ) ^ s * 2 ^ (32 - s) = 2 ^ 32 := by rw [← pow_add]; congr 1; omega
  have hsle : (2 : ℕ) ^ s ≤ 2 ^ 30 := Nat.pow_le_pow_right (by norm_num) hs
  have hvs : v * 2 ^ s ≤ v * 2 ^ 30 := Nat.mul_le_mul_left v hsle
  have hx : ((a.getD i 0).toUInt32.toUInt64 <<< UInt64.ofNat s).toNat = v * 2 ^ s := by
    rw [toNat_shl (by omega), toNat_wide, hword]
    rw [toNat_wide, hword]
    omega
  generalize (a.getD i 0).toUInt32.toUInt64 <<< UInt64.ofNat s = x at hx ⊢
  have hlo : ((w.getD k 0) ||| x.toUInt32).toNat = (w.getD k 0).toNat + x.toUInt32.toNat := by
    rw [UInt32.toNat_or, toNat_low, hx, ← hs32, mul_comm (2 ^ s), Nat.mul_mod_mul_right,
      or_eq_add (by omega)]
  have hsplit := low_add_high x
  have hset := toNat_modify hk (· ||| x.toUInt32)
  rw [hlo] at hset
  have hlen : (w.modify k (· ||| x.toUInt32)).length = 8 := by rw [List.length_modify, hw]
  rcases hend with hk' | ⟨rfl, rfl, rfl⟩
  · rw [if_pos hk']
    refine ⟨by rw [List.length_modify, hlen], ?_⟩
    have hset' := toNat_modify (w := w.modify k (· ||| x.toUInt32)) (k := k + 1) (by omega)
      (· ||| (x >>> 32).toUInt32)
    have hzero : w.getD (k + 1) 0 = 0 := by
      rw [← UInt32.toNat_inj]
      change _ = 0
      omega
    rw [getD_modify_ne (by omega), hzero, UInt32.zero_or, pow_succ ((2 : ℕ) ^ 32)] at hset'
    rw [show UInt32.toNat 0 = 0 from rfl] at hset'
    rw [hx] at hsplit
    generalize ((2 : ℕ) ^ 32) ^ k = b at hset hset' ⊢
    have hmul : b * 2 ^ s * v = b * x.toUInt32.toNat + b * 2 ^ 32 * (x >>> 32).toUInt32.toNat := by
      rw [mul_assoc, mul_comm (2 ^ s), ← hsplit]
      ring
    rw [hmul]
    rw [mul_add] at hset
    omega
  · -- the last limb ends with the last word
    have hv16 := hlast rfl
    rw [if_neg (by norm_num)]
    refine ⟨hlen, ?_⟩
    have hfull : x.toUInt32.toNat = v * 2 ^ 16 := by
      rw [toNat_low, hx, Nat.mod_eq_of_lt (by omega)]
    rw [hfull] at hset
    generalize ((2 : ℕ) ^ 32) ^ 7 = b at hset ⊢
    have hmul : b * 2 ^ 16 * v = b * (v * 2 ^ 16) := by ring
    rw [hmul]
    rw [mul_add] at hset
    omega

/-- **Limbs to words.** -/
theorem fromS30_spec {a : S30} {x : ℕ} (ha : Signed a x) (hx : x < 2 ^ 256) :
    (fromS30 a).length = 8 ∧ toNat (fromS30 a) = x := by
  have hlen := ha.length
  have hstep : ∀ i < 9, ∀ w : Fe, (w.length = 8 ∧ (toNat w : ℤ) = SignedWords.toInt (a.take i)) →
      (putLimb a w i).length = 8 ∧
        (toNat (putLimb a w i) : ℤ) = SignedWords.toInt (a.take (i + 1)) := by
    intro i hi w ⟨hw, hval⟩
    have hlow : ∀ j < 8, 0 ≤ (a.getD j 0).toInt ∧ (a.getD j 0).toInt < 2 ^ 30 := by
      intro j hj
      refine ha.low _ (List.mem_take_iff_getElem.mpr ⟨j, by omega, ?_⟩)
      rw [List.getD_eq_getElem _ _ (by omega)]
    have htop := ha.top
    have hlimb : 0 ≤ (a.getD i 0).toInt ∧ (a.getD i 0).toInt < 2 ^ 30 ∧
        (i = 8 → (a.getD i 0).toInt < 2 ^ 16) := by
      by_cases h8 : i = 8
      · subst h8
        omega
      · have := hlow i (by omega)
        exact ⟨this.1, this.2, fun h => absurd h h8⟩
    obtain ⟨v, hv⟩ := Int.eq_ofNat_of_zero_le hlimb.1
    have hlt : toNat w < (2 ^ 30) ^ i := by
      have hlow : ∀ y ∈ a.take i, 0 ≤ y.toInt ∧ y.toInt < 2 ^ 30 := fun y hy =>
        ha.low y (List.take_subset_take_left _ (by omega) hy)
      have hdig := (toInt_nonneg hlow).2
      rw [← hval, List.length_take_of_le (by omega)] at hdig
      exact_mod_cast hdig
    obtain ⟨hlen', hval'⟩ := putLimb_spec hw hi hlt hv (by omega) (by omega)
    refine ⟨hlen', ?_⟩
    rw [List.take_add_one, toInt_append, List.length_take_of_le (by omega), hval', ← hval]
    rw [List.getElem?_eq_getElem (by omega), Option.toList_some, toInt_cons,
      show SignedWords.toInt [] = 0 from rfl]
    rw [List.getD_eq_getElem _ _ (by omega)] at hv
    rw [hv]
    push_cast
    ring
  have h := range_loop (n := 9) hstep (s := List.replicate 8 0) ⟨rfl, rfl⟩
  rw [List.take_of_length_le (by omega), ha.eq] at h
  exact ⟨h.1, by exact_mod_cast h.2⟩

/-! ### The modulus -/

theorem newton_step {m0 x : UInt32} {j k : ℕ} (h : int m0 * int x ≡ 1 [ZMOD 2 ^ j])
    (hk : k ≤ 2 * j) (hk' : k ≤ 32) : int m0 * int (newton m0 x) ≡ 1 [ZMOD 2 ^ k] := by
  have hmul (y z : UInt32) : int (y * z) ≡ int y * int z [ZMOD 2 ^ 32] := by
    unfold int
    rw [UInt32.toNat_mul]
    push_cast
    exact Int.mod_modEq _ _
  have hval : int (newton m0 x) ≡ int x * (2 - int m0 * int x) [ZMOD 2 ^ 32] :=
    (hmul _ _).trans (Int.ModEq.mul_left _ ((DivstepWords.int_sub _ _).trans
      ((hmul _ _).neg.add_left 2)))
  obtain ⟨c, hc⟩ := h.symm.dvd
  have hsquare : int m0 * (int x * (2 - int m0 * int x)) ≡ 1 [ZMOD 2 ^ k] := by
    refine (Int.modEq_iff_dvd.mpr ((pow_dvd_pow 2 hk).trans ⟨c ^ 2, ?_⟩))
    rw [two_mul, pow_add]
    linear_combination (int m0 * int x - 1 + 2 ^ j * c) * hc
  exact ((hval.of_dvd (pow_dvd_pow 2 hk')).mul_left _).trans hsquare

/-- **Newton's steps** find the inverse of an odd modulus. -/
theorem new_spec {w : Fe} (hw : w.length = 8) (hodd : toNat w % 2 = 1) :
    Modulus (ModInfo.new w) (toNat w) := by
  have hsigned := toS30_spec hw
  have hlt := toNat_lt w
  rw [hw, show ((2 : ℕ) ^ 32) ^ 8 = 2 ^ 256 by norm_num] at hlt
  have hfirst := hsigned.first_word
  unfold ModInfo.new
  simp only
  generalize ((toS30 w).getD 0 0).toUInt32 = m0 at hfirst ⊢
  have hm0 : int m0 % 2 = 1 := by
    have : int m0 % 2 = (toNat w : ℤ) % 2 := hfirst.of_dvd (by norm_num)
    omega
  have h3 : int m0 * int m0 ≡ 1 [ZMOD 2 ^ 3] := by
    have : int m0 % 8 = 1 ∨ int m0 % 8 = 3 ∨ int m0 % 8 = 5 ∨ int m0 % 8 = 7 := by omega
    change int m0 * int m0 % 8 = 1 % 8
    rw [Int.mul_emod]
    rcases this with h | h | h | h <;> rw [h] <;> rfl
  have h6 := newton_step h3 (k := 6) (by norm_num) (by norm_num)
  have h12 := newton_step h6 (k := 12) (by norm_num) (by norm_num)
  have h24 := newton_step h12 (k := 24) (by norm_num) (by norm_num)
  have h30 := newton_step (newton_step h24 (k := 32) (by norm_num) (by norm_num)) (k := 30)
    (by norm_num) (by norm_num)
  refine ⟨hsigned, by omega, by exact_mod_cast hlt, ?_⟩
  change int ((newton m0)^[5] m0 &&& mask30.toUInt32) * (toNat w : ℤ) ≡ 1 [ZMOD 2 ^ 30]
  have hmask : int ((newton m0)^[5] m0 &&& mask30.toUInt32) ≡ int ((newton m0)^[5] m0)
      [ZMOD 2 ^ 30] := by
    unfold int
    rw [and_mask30]
    push_cast
    exact Int.mod_modEq _ _
  refine (hmask.mul hfirst.symm).trans ?_
  rw [mul_comm]
  exact h30

end EspMid.P256.DivstepConversions
