import Mathlib.Data.Nat.Digits.Lemmas

/-! # Numerals with leading zeros

A string of digits in base `B`, most significant first, is a number and a count of leading zeros:
`value` and `zeros` read the two off the string, and `spell` writes the string of the two. The
strings of digits below `B` and the pairs are in bijection (`spell_zeros_value`, `zeros_spell`,
`value_spell`), so a string is carried from one base to another, its leading zeros kept, without
loss. -/

namespace EspMid.Lib.Numeral

variable {B : ℕ}

/-- The number a string of digits writes. -/
def value (B : ℕ) (ds : List ℕ) : ℕ := Nat.ofDigits B ds.reverse

/-- How many zeros it starts with. -/
def zeros (ds : List ℕ) : ℕ := (ds.takeWhile (· == 0)).length

/-- The digits of `n` after `z` zeros. -/
def spell (B z n : ℕ) : List ℕ := List.replicate z 0 ++ (Nat.digits B n).reverse

theorem spell_succ (B z n : ℕ) : spell B (z + 1) n = 0 :: spell B z n := rfl

theorem lt_of_mem_spell (hB : 1 < B) {z n d : ℕ} (hd : d ∈ spell B z n) : d < B := by
  rcases List.mem_append.mp hd with hd | hd
  · rw [List.eq_of_mem_replicate hd]
    omega
  · exact Nat.digits_lt_base hB (List.mem_reverse.mp hd)

theorem zeros_spell_zero (B n : ℕ) : zeros (spell B 0 n) = 0 := by
  unfold zeros spell
  rw [List.replicate_zero, List.nil_append]
  by_cases hn : n = 0
  · rw [hn, Nat.digits_zero]
    rfl
  · have hne : Nat.digits B n ≠ [] := Nat.digits_ne_nil_iff_ne_zero.mpr hn
    have hlast := Nat.getLast_digit_ne_zero B hn
    rw [← List.dropLast_append_getLast hne, List.reverse_append, List.reverse_singleton,
      List.singleton_append, List.takeWhile_cons_of_neg (by simpa using hlast)]
    rfl

theorem zeros_spell (B z n : ℕ) : zeros (spell B z n) = z := by
  induction z with
  | zero => exact zeros_spell_zero B n
  | succ z ih =>
    rw [spell_succ]
    exact congrArg Nat.succ ih

theorem value_spell (B z n : ℕ) : value B (spell B z n) = n := by
  unfold value spell
  rw [List.reverse_append, List.reverse_reverse, List.reverse_replicate,
    Nat.ofDigits_append_replicate_zero, Nat.ofDigits_digits]

/-- **Reading then writing** is the identity. -/
theorem spell_zeros_value (hB : 1 < B) {ds : List ℕ} (h : ∀ d ∈ ds, d < B) :
    spell B (zeros ds) (value B ds) = ds := by
  induction ds with
  | nil => simp [spell, zeros, value]
  | cons d ds ih =>
    by_cases hd : d = 0
    · -- a leading zero is counted, and has no part in the value
      subst hd
      have hvalue : value B (0 :: ds) = value B ds := Nat.ofDigits_reverse_zero_cons ds
      have hzeros : zeros (0 :: ds) = zeros ds + 1 := rfl
      rw [hvalue, hzeros, spell_succ, ih fun e he => h e (List.mem_cons_of_mem _ he)]
    · -- otherwise the digits are those of the value
      have hzeros : zeros (d :: ds) = 0 := by
        unfold zeros
        rw [List.takeWhile_cons_of_neg (by simpa using hd), List.length_nil]
      have hdigits : Nat.digits B (value B (d :: ds)) = (d :: ds).reverse := by
        refine Nat.digits_ofDigits B hB _ (fun e he => h e (List.mem_reverse.mp he)) fun hne => ?_
        rw [List.getLast_reverse, List.head_cons]
        exact hd
      unfold spell
      rw [hzeros, hdigits, List.reverse_reverse, List.replicate_zero, List.nil_append]

theorem length_spell_le (hB : 1 < B) {z n k : ℕ} (hn : n < B ^ k) :
    (spell B z n).length ≤ z + k := by
  have hlen := (Nat.digits_length_le_iff hB n).mpr hn
  unfold spell
  rw [List.length_append, List.length_replicate, List.length_reverse]
  omega

theorem lt_pow_length_spell (hB : 1 < B) (z n : ℕ) : n < B ^ (spell B z n).length := by
  have hdigits : (Nat.digits B n).length ≤ (spell B z n).length := by
    unfold spell
    rw [List.length_append, List.length_reverse]
    exact Nat.le_add_left _ _
  exact (Nat.lt_base_pow_length_digits hB).trans_le (Nat.pow_le_pow_right hB.le hdigits)

end EspMid.Lib.Numeral
