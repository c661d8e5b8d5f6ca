import Mathlib.Data.List.Induction
import Mathlib.Tactic.Ring

/-! # Big-endian numerals over bytes

`toNat` reads a byte string as a number, most significant byte first; `ofNat w n` writes the last
`w` base-256 digits of `n`. The two are inverse on strings of length `w` and numbers below
`256 ^ w`; beyond that bound `ofNat` truncates, as a cast to a `w`-byte integer does. -/

namespace EspMid.Lib.BigEndian

/-- The value of a byte string, most significant byte first. -/
def toNat (l : List UInt8) : ℕ := l.foldl (fun acc b => acc * 256 + b.toNat) 0

/-- The last `w` base-256 digits of `n`, most significant first. -/
def ofNat : (w n : ℕ) → List UInt8
  | 0, _ => []
  | w + 1, n => ofNat w (n / 256) ++ [UInt8.ofNat n]

@[simp] theorem toNat_nil : toNat [] = 0 := rfl

@[simp] theorem toNat_concat (l : List UInt8) (b : UInt8) :
    toNat (l ++ [b]) = toNat l * 256 + b.toNat := by
  simp [toNat]

@[simp] theorem length_ofNat : ∀ w n : ℕ, (ofNat w n).length = w
  | 0, _ => rfl
  | w + 1, n => by simp [ofNat, length_ofNat w]

theorem toNat_cons (b : UInt8) (l : List UInt8) :
    toNat (b :: l) = b.toNat * 256 ^ l.length + toNat l := by
  induction l using List.reverseRecOn with
  | nil => simp [toNat]
  | append_singleton l x ih =>
    rw [← List.cons_append, toNat_concat, toNat_concat, ih, List.length_append,
      List.length_singleton, pow_succ]
    ring

theorem toNat_lt (l : List UInt8) : toNat l < 256 ^ l.length := by
  induction l using List.reverseRecOn with
  | nil => simp
  | append_singleton l b ih =>
    have hb := b.toNat_lt
    rw [toNat_concat, List.length_append, List.length_singleton, pow_succ]
    omega

/-- **Writing then reading** keeps the last `w` digits. -/
theorem toNat_ofNat : ∀ w n : ℕ, toNat (ofNat w n) = n % 256 ^ w
  | 0, n => by simp [ofNat, Nat.mod_one]
  | w + 1, n => by
    have hb : (UInt8.ofNat n).toNat = n % 256 := by simp
    rw [ofNat, toNat_concat, toNat_ofNat w, hb, pow_succ', Nat.mod_mul]
    ring

theorem toNat_ofNat_of_lt {w n : ℕ} (h : n < 256 ^ w) : toNat (ofNat w n) = n := by
  rw [toNat_ofNat, Nat.mod_eq_of_lt h]

/-- **Reading then writing** is the identity. -/
theorem ofNat_toNat (l : List UInt8) : ofNat l.length (toNat l) = l := by
  induction l using List.reverseRecOn with
  | nil => rfl
  | append_singleton l b ih =>
    have hb := b.toNat_lt
    have hdiv : (toNat l * 256 + b.toNat) / 256 = toNat l := by omega
    have hmod : UInt8.ofNat (toNat l * 256 + b.toNat) = b := by
      apply UInt8.toNat_inj.mp
      simp only [UInt8.toNat_ofNat']
      omega
    rw [List.length_append, List.length_singleton, ofNat, toNat_concat, hdiv, ih, hmod]

theorem ofNat_mod (w n : ℕ) : ofNat w (n % 256 ^ w) = ofNat w n := by
  have hround := ofNat_toNat (ofNat w n)
  rwa [length_ofNat, toNat_ofNat] at hround

theorem ofNat_eq_iff {w n m : ℕ} : ofNat w n = ofNat w m ↔ n % 256 ^ w = m % 256 ^ w := by
  constructor
  · intro h
    rw [← toNat_ofNat, h, toNat_ofNat]
  · intro h
    rw [← ofNat_mod, h, ofNat_mod]

theorem ofNat_inj {w n m : ℕ} (hn : n < 256 ^ w) (hm : m < 256 ^ w)
    (h : ofNat w n = ofNat w m) : n = m := by
  rw [← toNat_ofNat_of_lt hn, h, toNat_ofNat_of_lt hm]

theorem toNat_inj {l l' : List UInt8} (hl : l.length = l'.length) (h : toNat l = toNat l') :
    l = l' := by
  rw [← ofNat_toNat l, hl, h, ofNat_toNat]

end EspMid.Lib.BigEndian
