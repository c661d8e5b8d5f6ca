import EspMid.Lib.Montgomery
import EspMid.Model.Field32

/-! # The carry chains of the field

What each of the field's loops over words does to the numbers: a chain of additions adds, one of
subtractions subtracts up to the last borrow, one of multiply-accumulates adds a multiple. -/

namespace EspMid.P256.Chains

open EspMid.Lib.Limbs EspMid.Lib.Words EspMid.Model.Field32

/-! ### One word -/

theorem adc32_eq (a b c : UInt32) :
    (adc32 a b c).1.toNat + 2 ^ 32 * (adc32 a b c).2.toNat = a.toNat + b.toNat + c.toNat := by
  have ha := a.toNat_lt
  have hb := b.toNat_lt
  have hc := c.toNat_lt
  have hab : (a.toUInt64 + b.toUInt64).toNat = a.toNat + b.toNat :=
    toNat_add (by simp only [toNat_wide]; omega)
  have habc : (a.toUInt64 + b.toUInt64 + c.toUInt64).toNat = a.toNat + b.toNat + c.toNat := by
    rw [toNat_add (by rw [hab, toNat_wide]; omega), hab, toNat_wide]
  rw [adc32, low_add_high, habc]

theorem mac32_eq (t a b c : UInt32) :
    (mac32 t a b c).1.toNat + 2 ^ 32 * (mac32 t a b c).2.toNat =
      t.toNat + a.toNat * b.toNat + c.toNat := by
  have ht := t.toNat_lt
  have hc := c.toNat_lt
  have hab := mul_le a b
  have hm : (a.toUInt64 * b.toUInt64).toNat = a.toNat * b.toNat := toNat_mul a b
  have htab : (t.toUInt64 + a.toUInt64 * b.toUInt64).toNat = t.toNat + a.toNat * b.toNat := by
    rw [toNat_add (by rw [hm, toNat_wide]; omega), hm, toNat_wide]
  have hall : (t.toUInt64 + a.toUInt64 * b.toUInt64 + c.toUInt64).toNat =
      t.toNat + a.toNat * b.toNat + c.toNat := by
    rw [toNat_add (by rw [htab, toNat_wide]; omega), htab, toNat_wide]
  rw [mac32, low_add_high, hall]

/-- Zero, or all ones after a subtraction that went below zero. -/
def Borrow (b : UInt32) : Prop := b = 0 ∨ b = 0xFFFFFFFF

/-- The borrow as a number. -/
def bit (b : UInt32) : ℕ := (b >>> 31).toNat

theorem Borrow.bit_le {b : UInt32} (h : Borrow b) : bit b ≤ 1 := by
  obtain rfl | rfl := h <;> decide

theorem sbb32_eq (a b : UInt32) {c : UInt32} (hc : Borrow c) :
    (sbb32 a b c).1.toNat + b.toNat + bit c = a.toNat + 2 ^ 32 * bit (sbb32 a b c).2 ∧
      Borrow (sbb32 a b c).2 := by
  have ha := a.toNat_lt
  have hb := b.toNat_lt
  have hbit : bit c ≤ 1 := hc.bit_le
  have hsub : (b.toUInt64 + (c >>> 31).toUInt64).toNat = b.toNat + bit c :=
    toNat_add (by simp only [toNat_wide]; unfold bit at hbit; omega)
  unfold sbb32
  simp only
  by_cases hle : b.toNat + bit c ≤ a.toNat
  · -- no borrow
    have hw : (a.toUInt64 - (b.toUInt64 + (c >>> 31).toUInt64)).toNat =
        a.toNat - (b.toNat + bit c) := by
      rw [UInt64.toNat_sub_of_le _ _ (by rw [UInt64.le_iff_toNat_le, hsub, toNat_wide]; exact hle),
        hsub, toNat_wide]
    have hhigh : ((a.toUInt64 - (b.toUInt64 + (c >>> 31).toUInt64)) >>> 32).toUInt32 = 0 := by
      rw [← UInt32.toNat_inj, toNat_high, hw, Nat.div_eq_of_lt (by omega)]
      rfl
    rw [hhigh, toNat_low, hw]
    exact ⟨by simp only [show bit 0 = 0 from rfl]; omega, Or.inl rfl⟩
  · -- the difference wraps
    have hw : (a.toUInt64 - (b.toUInt64 + (c >>> 31).toUInt64)).toNat =
        2 ^ 64 - (b.toNat + bit c) + a.toNat := by
      rw [UInt64.toNat_sub, hsub, toNat_wide, Nat.mod_eq_of_lt (by omega)]
    have hhigh : ((a.toUInt64 - (b.toUInt64 + (c >>> 31).toUInt64)) >>> 32).toUInt32 =
        0xFFFFFFFF := by
      rw [← UInt32.toNat_inj, toNat_high, hw]
      simp only [UInt32.toNat_ofNat]
      omega
    rw [hhigh, toNat_low, hw]
    exact ⟨by simp only [show bit 0xFFFFFFFF = 1 from rfl]; omega, Or.inr rfl⟩

theorem wideStep_eq {x : UInt32} {y c : UInt64} (hy : y.toNat ≤ (2 ^ 32 - 1) * (2 ^ 32 - 1))
    (hc : c.toNat < 2 ^ 32) :
    (wideStep (x, y) c).1.toNat + 2 ^ 32 * (wideStep (x, y) c).2.toNat =
      x.toNat + y.toNat + c.toNat := by
  have hx := x.toNat_lt
  have hxy : (x.toUInt64 + y).toNat = x.toNat + y.toNat := by
    rw [toNat_add (by rw [toNat_wide]; omega), toNat_wide]
  have hall : (x.toUInt64 + y + c).toNat = x.toNat + y.toNat + c.toNat := by
    rw [toNat_add (by rw [hxy]; omega), hxy]
  rw [wideStep, low_add_shift, hall]

/-! ### Chains -/

variable {xs ys : List UInt32}

theorem adc_chain (h : xs.length = ys.length) (c : UInt32) :
    toNat (carry adcStep (xs.zip ys) c).1 +
        (2 ^ 32) ^ xs.length * (carry adcStep (xs.zip ys) c).2.toNat =
      toNat xs + toNat ys + c.toNat := by
  have hstep : ∀ z ∈ xs.zip ys, Keeps (2 ^ 32) (fun z => z.1.toNat + z.2.toNat) UInt32.toNat
      UInt32.toNat (fun _ => True) adcStep z :=
    fun z _ c _ => ⟨adc32_eq z.1 z.2 c, trivial⟩
  have hv := (value_carry hstep (c := c) trivial).1
  rwa [value_zip_add _ _ _ h, List.length_zip, ← h, min_self] at hv

theorem mac_chain (h : xs.length = ys.length) (k c : UInt32) :
    toNat (carry (macStep k) (xs.zip ys) c).1 +
        (2 ^ 32) ^ xs.length * (carry (macStep k) (xs.zip ys) c).2.toNat =
      toNat xs + toNat ys * k.toNat + c.toNat := by
  have hstep : ∀ z ∈ xs.zip ys, Keeps (2 ^ 32) (fun z => z.1.toNat + z.2.toNat * k.toNat)
      UInt32.toNat UInt32.toNat (fun _ => True) (macStep k) z :=
    fun z _ c _ => ⟨mac32_eq z.1 z.2 k c, trivial⟩
  have hv := (value_carry hstep (c := c) trivial).1
  rwa [value_zip_add _ UInt32.toNat (fun y => y.toNat * k.toNat) h, value_mul, List.length_zip,
    ← h, min_self] at hv

theorem sbb_chain (h : xs.length = ys.length) {c : UInt32} (hc : Borrow c) :
    (toNat (carry sbbStep (xs.zip ys) c).1 + toNat ys + bit c =
        toNat xs + (2 ^ 32) ^ xs.length * bit (carry sbbStep (xs.zip ys) c).2) ∧
      Borrow (carry sbbStep (xs.zip ys) c).2 := by
  -- the borrow counts against the number, so the chain is read over the integers
  have hstep : ∀ z ∈ xs.zip ys, Keeps ((2 : ℤ) ^ 32) (fun z => int z.1 + -int z.2) int
      (fun b => -(bit b : ℤ)) Borrow sbbStep z := by
    intro z _ c hc
    obtain ⟨he, hb⟩ := sbb32_eq z.1 z.2 hc
    refine ⟨?_, hb⟩
    change ((sbb32 z.1 z.2 c).1.toNat : ℤ) + 2 ^ 32 * -(bit (sbb32 z.1 z.2 c).2 : ℤ) =
      (z.1.toNat : ℤ) + -(z.2.toNat : ℤ) + -(bit c : ℤ)
    omega
  have hneg : value ((2 : ℤ) ^ 32) (fun y => -int y) ys = -(toNat ys : ℤ) := by
    rw [cast_toNat, ← neg_one_mul, mul_comm, ← value_mul]
    simp
  obtain ⟨hv, hb⟩ := value_carry hstep hc
  rw [value_zip_add _ int (fun y => -int y) h, hneg, ← cast_toNat, ← cast_toNat, List.length_zip,
    ← h, min_self] at hv
  refine ⟨?_, hb⟩
  zify
  linear_combination hv

theorem wide_chain {zs : List UInt64} (h : xs.length = zs.length)
    (hz : ∀ z ∈ zs, z.toNat ≤ (2 ^ 32 - 1) * (2 ^ 32 - 1)) {c : UInt64} (hc : c.toNat < 2 ^ 32) :
    (toNat (carry wideStep (xs.zip zs) c).1 +
        (2 ^ 32) ^ xs.length * (carry wideStep (xs.zip zs) c).2.toNat =
      toNat xs + value (2 ^ 32) UInt64.toNat zs + c.toNat) ∧
      (carry wideStep (xs.zip zs) c).2.toNat < 2 ^ 32 := by
  have hstep : ∀ z ∈ xs.zip zs, Keeps (2 ^ 32) (fun z => z.1.toNat + z.2.toNat) UInt32.toNat
      UInt64.toNat (fun c => c.toNat < 2 ^ 32) wideStep z :=
    fun z hmem c hc => ⟨wideStep_eq (hz z.2 (List.of_mem_zip hmem).2) hc, shift_lt _⟩
  obtain ⟨hv, hlast⟩ := value_carry hstep hc
  rw [value_zip_add _ _ _ h, List.length_zip, ← h, min_self] at hv
  exact ⟨hv, hlast⟩

/-! ### Rows of products -/

theorem getD_of_drop_zero {t : List UInt32} {i k : ℕ} (h : t.drop i = List.replicate k 0)
    (hk : 0 < k) : t.getD i 0 = 0 := by
  have hget := congrArg (fun l => l.getD 0 0) h
  simp only [List.getD_eq_getElem?_getD, List.getElem?_drop, add_zero] at hget
  rw [List.getD_eq_getElem?_getD, hget, List.getElem?_replicate_of_lt hk]
  rfl

theorem toNat_window_succ {t : List UInt32} {i k : ℕ} (h : i + k < t.length)
    (hz : t.getD (i + k) 0 = 0) : toNat (window t i (k + 1)) = toNat (window t i k) := by
  rw [List.getD_eq_getElem _ _ h] at hz
  have hsucc : window t i (k + 1) = window t i k ++ [0] := by
    rw [window, window, List.take_succ_eq_append_getElem (by rw [List.length_drop]; omega),
      List.getElem_drop, hz]
  rw [hsucc, toNat_append]
  simp [Lib.Words.toNat]

/-- **A row of a product** onto words with a zero above them adds its multiple. -/
theorem mac_row (k : UInt32) {t : List UInt32} {i : ℕ} (hfit : i + (xs.length + 1) ≤ t.length)
    (hz : t.getD (i + xs.length) 0 = 0) :
    (macRow k t i xs).length = t.length ∧
      toNat (macRow k t i xs) = toNat t + (2 ^ 32) ^ i * (k.toNat * toNat xs) ∧
      ∀ j, i + (xs.length + 1) ≤ j → (macRow k t i xs).drop j = t.drop j := by
  have hwin : (window t i xs.length).length = xs.length := length_window (by omega)
  have hv := mac_chain hwin k 0
  rw [hwin, show UInt32.toNat 0 = 0 from rfl, add_zero] at hv
  have hwz := toNat_window_succ (by omega) hz
  have hol : (carry (macStep k) ((window t i xs.length).zip xs) 0).1.length = xs.length := by
    rw [length_carry, List.length_zip, hwin, min_self]
  unfold macRow
  simp only
  generalize carry (macStep k) ((window t i xs.length).zip xs) 0 = r at hv hol ⊢
  have hsl : (r.1 ++ [r.2]).length = xs.length + 1 := by rw [List.length_append, hol]; rfl
  rw [← hsl] at hfit
  refine ⟨length_patch hfit, ?_, fun j hj => drop_patch (by omega) (by omega)⟩
  -- the window with its zero becomes the row and its carry
  have hp := value_patch ((2 : ℤ) ^ 32) int hfit
  rw [hsl, ← cast_toNat, ← cast_toNat, ← cast_toNat, ← cast_toNat, hwz, toNat_append, hol,
    toNat_cons, show toNat [] = 0 from rfl] at hp
  have hcarry : (toNat r.1 : ℤ) + (2 ^ 32) ^ xs.length * (r.2.toNat : ℤ) =
      toNat (window t i xs.length) + toNat xs * k.toNat := by
    exact_mod_cast hv
  zify
  push_cast at hp
  rw [hp]
  linear_combination (2 ^ 32) ^ i * hcarry

end EspMid.P256.Chains
