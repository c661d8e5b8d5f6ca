import EspMid.Lib.Limbs
import Mathlib.Data.List.GetD

/-! # Words of 32 bits

A number in words of 32 bits, the low word first (`toNat`), and the sums of words that 64 bits hold.
A sum that fits is split into its low word and what is above it without loss (`low_add_high`,
`low_add_shift`). -/

namespace EspMid.Lib.Words

open EspMid.Lib.Limbs

/-- The number of little-endian words. -/
def toNat (ws : List UInt32) : ℕ := value (2 ^ 32) UInt32.toNat ws

/-- A word as an integer. -/
def int (w : UInt32) : ℤ := w.toNat

theorem toNat_cons (w : UInt32) (ws : List UInt32) :
    toNat (w :: ws) = w.toNat + 2 ^ 32 * toNat ws := rfl

theorem toNat_append (ws vs : List UInt32) :
    toNat (ws ++ vs) = toNat ws + (2 ^ 32) ^ ws.length * toNat vs :=
  value_append _ _ ws vs

theorem toNat_lt (ws : List UInt32) : toNat ws < (2 ^ 32) ^ ws.length :=
  value_lt fun w _ => w.toNat_lt

theorem toNat_inj {ws vs : List UInt32} (hlen : ws.length = vs.length)
    (h : toNat ws = toNat vs) : ws = vs :=
  value_inj (fun _ _ => UInt32.toNat_inj.mp) (fun w _ => w.toNat_lt) (fun w _ => w.toNat_lt) hlen h

theorem cast_toNat (ws : List UInt32) : (toNat ws : ℤ) = value (2 ^ 32) int ws :=
  map_value _ _ (Nat.castRingHom ℤ) ws

theorem toNat_replicate_zero (k : ℕ) : toNat (List.replicate k 0) = 0 :=
  value_replicate_zero (2 ^ 32) UInt32.toNat rfl k

/-- The low `k` words of a number. -/
def ofNat (k : ℕ) (v : ℕ) : List UInt32 :=
  match k with
  | 0 => []
  | k + 1 => UInt32.ofNat v :: ofNat k (v / 2 ^ 32)

@[simp] theorem length_ofNat (k v : ℕ) : (ofNat k v).length = k := by
  induction k generalizing v with
  | zero => rfl
  | succ k ih => rw [ofNat, List.length_cons, ih]

theorem toNat_ofNat (k v : ℕ) : toNat (ofNat k v) = v % (2 ^ 32) ^ k := by
  induction k generalizing v with
  | zero => rw [pow_zero, Nat.mod_one]; rfl
  | succ k ih =>
    rw [ofNat, toNat_cons, ih, pow_succ' ((2 : ℕ) ^ 32) k, Nat.mod_mul]
    rfl

theorem toNat_ofNat_of_lt {k v : ℕ} (h : v < (2 ^ 32) ^ k) : toNat (ofNat k v) = v := by
  rw [toNat_ofNat, Nat.mod_eq_of_lt h]

theorem toNat_take_add {t : List UInt32} {k : ℕ} (h : t.length = k + 1) :
    toNat (t.take k) + (2 ^ 32) ^ k * (t.getD k 0).toNat = toNat t := by
  have hlast : t.drop k = [t.getD k 0] := by
    rw [List.drop_eq_getElem_cons (by omega), List.drop_eq_nil_of_le (by omega),
      List.getD_eq_getElem _ _ (by omega)]
  have hv := value_take_add_drop (2 ^ 32) UInt32.toNat t (i := k) (by omega)
  rw [hlast] at hv
  simpa [toNat] using hv

theorem toNat_getD_add {t : List UInt32} (h : t ≠ []) :
    (t.getD 0 0).toNat + 2 ^ 32 * toNat (t.drop 1) = toNat t := by
  obtain ⟨w, ws, rfl⟩ := List.exists_cons_of_ne_nil h
  rfl

/-! ### The two halves of 64 bits -/

theorem toNat_low (w : UInt64) : w.toUInt32.toNat = w.toNat % 2 ^ 32 := rfl

theorem toNat_shift (w : UInt64) : (w >>> 32).toNat = w.toNat / 2 ^ 32 := by
  rw [UInt64.toNat_shiftRight]
  exact Nat.shiftRight_eq_div_pow w.toNat 32

theorem shift_lt (w : UInt64) : (w >>> 32).toNat < 2 ^ 32 := by
  have := w.toNat_lt
  rw [toNat_shift]
  omega

theorem toNat_high (w : UInt64) : (w >>> 32).toUInt32.toNat = w.toNat / 2 ^ 32 := by
  rw [toNat_low, Nat.mod_eq_of_lt (shift_lt w), toNat_shift]

theorem low_add_shift (w : UInt64) :
    w.toUInt32.toNat + 2 ^ 32 * (w >>> 32).toNat = w.toNat := by
  rw [toNat_low, toNat_shift, Nat.mod_add_div]

theorem low_add_high (w : UInt64) :
    w.toUInt32.toNat + 2 ^ 32 * (w >>> 32).toUInt32.toNat = w.toNat := by
  rw [toNat_low, toNat_high, Nat.mod_add_div]

@[simp] theorem toNat_wide (w : UInt32) : w.toUInt64.toNat = w.toNat := rfl

theorem toNat_top (w : UInt32) : (w >>> 31).toNat = w.toNat / 2 ^ 31 := by
  rw [UInt32.toNat_shiftRight]
  exact Nat.shiftRight_eq_div_pow w.toNat 31

theorem toNat_add {x y : UInt64} (h : x.toNat + y.toNat < 2 ^ 64) :
    (x + y).toNat = x.toNat + y.toNat := by
  rw [UInt64.toNat_add, Nat.mod_eq_of_lt h]

theorem mul_le (x y : UInt32) : x.toNat * y.toNat ≤ 2 ^ 64 - 2 * 2 ^ 32 + 1 := by
  have hx : x.toNat ≤ 2 ^ 32 - 1 := Nat.le_sub_one_of_lt x.toNat_lt
  have hy : y.toNat ≤ 2 ^ 32 - 1 := Nat.le_sub_one_of_lt y.toNat_lt
  calc x.toNat * y.toNat ≤ (2 ^ 32 - 1) * (2 ^ 32 - 1) := Nat.mul_le_mul hx hy
    _ = 2 ^ 64 - 2 * 2 ^ 32 + 1 := by norm_num

theorem toNat_mul (x y : UInt32) :
    (x.toUInt64 * y.toUInt64).toNat = x.toNat * y.toNat := by
  have := mul_le x y
  rw [UInt64.toNat_mul, toNat_wide, toNat_wide]
  exact Nat.mod_eq_of_lt (by omega)

theorem toNat_all_ones (m : UInt32) :
    ((m.toUInt64 <<< 32) - m.toUInt64).toNat = (2 ^ 32 - 1) * m.toNat := by
  have hm := m.toNat_lt
  have hshift : (m.toUInt64 <<< 32).toNat = m.toNat * 2 ^ 32 := by
    have hfits : m.toNat * 2 ^ 32 < 2 ^ 64 := by omega
    rw [UInt64.toNat_shiftLeft, toNat_wide, Nat.shiftLeft_eq]
    exact Nat.mod_eq_of_lt hfits
  have hle : m.toUInt64 ≤ m.toUInt64 <<< 32 := by
    rw [UInt64.le_iff_toNat_le, hshift, toNat_wide]
    omega
  rw [UInt64.toNat_sub_of_le _ _ hle, hshift, toNat_wide]
  omega

end EspMid.Lib.Words
