import EspMid.Lib.Windows
import EspMid.Model.Projective

/-! # Windows of a scalar

What the two multiplies read off the bytes of a scalar: four bits at a time from the top
(`slot_eq`), or five bits from the bottom (`window_eq`) as a sign and a magnitude
(`negBit_eq`, `magnitude_eq`). -/

namespace EspMid.P256.ScalarWindows

open EspMid.Lib.Windows EspMid.Model.Projective

/-! ### Choices -/

/-- **A choice** by a difference that is less than a byte. -/
theorem sameChoice_iff {a b : UInt32} (ha : a.toNat < 256) (hb : b.toNat < 256) :
    sameChoice a b = true ↔ a = b := by
  have hx : (a ^^^ b).toNat < 2 ^ 8 := by
    rw [UInt32.toNat_xor]
    exact Nat.xor_lt_two_pow ha hb
  rw [← UInt32.xor_eq_zero_iff (a := a) (b := b)]
  unfold sameChoice
  generalize a ^^^ b = x at hx
  constructor
  · intro h
    by_contra hne
    have hpos : 0 < x.toNat := by
      rw [Nat.pos_iff_ne_zero]
      exact fun h0 => hne (UInt32.toNat_inj.mp h0)
    have hzero : (x - 1) >>> 8 = 0 := by
      refine UInt32.toNat_inj.mp ?_
      have hsub : (x - 1).toNat = x.toNat - 1 := UInt32.toNat_sub_of_le x 1 hpos
      rw [UInt32.toNat_shiftRight, hsub]
      simp only [UInt32.reduceToNat, Nat.reduceMod, Nat.shiftRight_eq_div_pow]
      omega
    rw [hzero] at h
    exact absurd h (by decide)
  · rintro rfl
    decide

/-! ### Bytes -/

theorem length_leBytes (k : ℕ) : (leBytes k).length = 32 := by
  simp [leBytes]

theorem toNat_getD_leBytes (k : ℕ) {i : ℕ} (h : i < 32) :
    ((leBytes k).getD i 0).toNat = k / 2 ^ (8 * i) % 2 ^ 8 := by
  have hget : (leBytes k).getD i 0 = UInt8.ofNat (k / 256 ^ i) := by
    simp [leBytes, List.getD_eq_getElem?_getD, h]
  rw [hget, UInt8.toNat_ofNat', pow_mul, show 2 ^ 8 = 256 by rfl]

theorem slot_lt (k : List UInt8) (pos : ℕ) : (slot k pos).toNat < 16 := by
  unfold slot
  rw [UInt8.toNat_and]
  exact Nat.and_lt_two_pow _ (show 15 < 2 ^ 4 by decide)

/-- **Four bits** of a byte. -/
theorem slot_eq (k : ℕ) {j : ℕ} (h : j < 64) :
    (slot (leBytes k) (4 * j)).toNat = k / 16 ^ j % 16 := by
  have hbyte : (4 * j) >>> 3 = 4 * j / 8 := Nat.shiftRight_eq_div_pow _ 3
  have hshift : (4 * j) &&& 7 = 4 * j % 8 := Nat.and_two_pow_sub_one_eq_mod _ 3
  have hlt : 4 * j / 8 < 32 := by omega
  have hfour : 4 * j % 8 + 4 ≤ 8 := by omega
  unfold slot
  rw [hbyte, hshift, UInt8.toNat_and, UInt8.toNat_shiftRight, toNat_getD_leBytes k hlt,
    UInt8.toNat_ofNat', Nat.mod_mod_of_dvd _ (by decide), Nat.mod_mod, Nat.shiftRight_eq_div_pow]
  change _ &&& 2 ^ 4 - 1 = _
  rw [Nat.and_two_pow_sub_one_eq_mod, window_mod _ hfour, Nat.div_div_eq_div_mul, ← pow_add,
    Nat.div_add_mod, pow_mul, show 2 ^ 4 = 16 by rfl]

theorem toNat_twoBytes {hi lo : UInt16} (hhi : hi.toNat < 2 ^ 8) (hlo : lo.toNat < 2 ^ 8) {s : ℕ}
    (hs : s < 8) :
    ((((hi <<< 8) ||| lo) >>> UInt16.ofNat s).toUInt8 &&& 31).toNat =
      (hi.toNat * 2 ^ 8 + lo.toNat) / 2 ^ s % 32 := by
  have hor : ((hi <<< 8) ||| lo).toNat = hi.toNat * 2 ^ 8 + lo.toNat := by
    rw [UInt16.toNat_or, UInt16.toNat_shiftLeft, ← Nat.shiftLeft_eq,
      Nat.shiftLeft_add_eq_or_of_lt hlo]
    congr 1
    change hi.toNat <<< 8 % 2 ^ 16 = _
    rw [Nat.shiftLeft_eq]
    omega
  have hshift : (UInt16.ofNat s).toNat % 16 = s := by
    rw [UInt16.toNat_ofNat']
    omega
  rw [UInt8.toNat_and, UInt16.toNat_toUInt8, UInt16.toNat_shiftRight, hor, hshift,
    Nat.shiftRight_eq_div_pow]
  change _ &&& 2 ^ 5 - 1 = _
  rw [Nat.and_two_pow_sub_one_eq_mod]
  exact Nat.mod_mod_of_dvd _ (by decide)

/-- **Five bits** of two bytes, or of the last one. -/
theorem window_eq (k : ℕ) (hk : k < 2 ^ 256) {i : ℕ} (h : i < 52) :
    (window (leBytes k) i).toNat = k / 32 ^ i % 32 := by
  have hbyte : (5 * i) >>> 3 = 5 * i / 8 := Nat.shiftRight_eq_div_pow _ 3
  have hshift : (5 * i) &&& 7 = 5 * i % 8 := Nat.and_two_pow_sub_one_eq_mod _ 3
  have hlt : 5 * i / 8 < 32 := by omega
  have hfive : 5 * i % 8 + 5 ≤ 16 := by omega
  -- above the last byte there is nothing
  have hhi : (if 5 * i / 8 + 1 < 32 then ((leBytes k).getD (5 * i / 8 + 1) 0).toUInt16
      else 0).toNat = k / 2 ^ (8 * (5 * i / 8 + 1)) % 2 ^ 8 := by
    split_ifs with hlast
    · exact toNat_getD_leBytes k hlast
    · have h31 : 5 * i / 8 + 1 = 32 := by omega
      rw [h31, Nat.div_eq_of_lt hk]
      rfl
  have hlo := toNat_getD_leBytes k hlt
  have htwo : k / 2 ^ (8 * (5 * i / 8 + 1)) % 2 ^ 8 * 2 ^ 8 + k / 2 ^ (8 * (5 * i / 8)) % 2 ^ 8 =
      k / 2 ^ (8 * (5 * i / 8)) % 2 ^ 16 := by
    rw [Nat.mul_succ, pow_add, ← Nat.div_div_eq_div_mul]
    omega
  have hwindow : window (leBytes k) i =
      ((((if 5 * i / 8 + 1 < 32 then ((leBytes k).getD (5 * i / 8 + 1) 0).toUInt16 else 0) <<< 8) |||
        ((leBytes k).getD (5 * i / 8) 0).toUInt16) >>> UInt16.ofNat (5 * i % 8)).toUInt8 &&& 31 := by
    simp only [window, TABLE_WINDOW, hbyte, hshift, length_leBytes]
  rw [hwindow, toNat_twoBytes (by rw [hhi]; omega) (by rw [UInt8.toNat_toUInt16, hlo]; omega)
    (Nat.mod_lt _ (by decide)), hhi, UInt8.toNat_toUInt16, hlo, htwo]
  change _ % 2 ^ 5 = _
  rw [window_mod _ hfive, Nat.div_div_eq_div_mul, ← pow_add, Nat.div_add_mod, pow_mul,
    show 2 ^ 5 = 32 by rfl]

/-! ### Signed digits -/

/-- **The sign**: the window is above half of the base. -/
theorem negBit_eq {w : UInt8} (h : w.toNat ≤ 32) :
    (negBit w).toNat = if 16 < w.toNat then 1 else 0 := by
  have hall : ∀ v < 33, (negBit (UInt8.ofNat v)).toNat = if 16 < v then 1 else 0 := by decide
  have hw := hall w.toNat (by omega)
  rwa [UInt8.ofNat_toNat] at hw

/-- **The magnitude**: the window, or the base less the window. -/
theorem magnitude_eq {w : UInt8} (h : w.toNat ≤ 32) :
    (magnitude w).toNat = if 16 < w.toNat then 32 - w.toNat else w.toNat := by
  have hall : ∀ v < 33, (magnitude (UInt8.ofNat v)).toNat = if 16 < v then 32 - v else v := by
    decide
  have hw := hall w.toNat (by omega)
  rwa [UInt8.ofNat_toNat] at hw

end EspMid.P256.ScalarWindows
