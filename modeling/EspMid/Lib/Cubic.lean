import Mathlib.FieldTheory.Finite.Basic
import Mathlib.Tactic.LinearCombination

/-! # Cubics without a root

Over a field of `p` elements every root of a cubic is a root of `X ^ p - X`, and so of its remainder
modulo the cubic: the cubic has no root when that remainder has an inverse modulo the cubic. The test
is a Boolean the kernel evaluates (`check`), with the power by squaring. -/

namespace EspMid.Lib.Cubic

/-- A polynomial of degree at most two, with coefficients that are numbers. -/
structure Quadratic where
  c0 : ℕ
  c1 : ℕ
  c2 : ℕ

/-- The product modulo `X ^ 3 - c X - d`. -/
def mul (p c d : ℕ) (u v : Quadratic) : Quadratic :=
  let w3 := u.c1 * v.c2 + u.c2 * v.c1
  let w4 := u.c2 * v.c2
  ⟨(u.c0 * v.c0 + d * w3) % p, (u.c0 * v.c1 + u.c1 * v.c0 + c * w3 + d * w4) % p,
    (u.c0 * v.c2 + u.c1 * v.c1 + u.c2 * v.c0 + c * w4) % p⟩

/-- `u ^ e` modulo the cubic by squaring, over the low `bits` bits of the exponent. -/
def pow (p c d : ℕ) : ℕ → Quadratic → ℕ → Quadratic
  | 0, _, _ => ⟨1, 0, 0⟩
  | bits + 1, u, e =>
    let rest := pow p c d bits (mul p c d u u) (e / 2)
    if e % 2 = 1 then mul p c d u rest else rest

/-- A polynomial less `X`. -/
def lessX (p : ℕ) (u : Quadratic) : Quadratic := ⟨u.c0, u.c1 + (p - 1), u.c2⟩

/-- The remainder of `X ^ p - X` has the inverse `inv` modulo the cubic. -/
def check (p c d bits : ℕ) (inv : Quadratic) : Bool :=
  let one := mul p c d inv (lessX p (pow p c d bits ⟨0, 1, 0⟩ p))
  decide (p < 2 ^ bits) && decide (0 < p) && one.c0 == 1 && one.c1 == 0 && one.c2 == 0

/-! ### At a root -/

section
variable {p c d : ℕ}

/-- The value at a point of the field. -/
def Quadratic.eval (u : Quadratic) (r : ZMod p) : ZMod p := u.c0 + u.c1 * r + u.c2 * r ^ 2

variable {r : ZMod p}

theorem eval_mul (hr : r ^ 3 = c * r + d) (u v : Quadratic) :
    (mul p c d u v).eval r = u.eval r * v.eval r := by
  simp only [mul, Quadratic.eval, ZMod.natCast_mod]
  push_cast
  linear_combination
    (-(u.c1 * v.c2 + u.c2 * v.c1 : ZMod p) - u.c2 * v.c2 * r) * hr

theorem eval_pow (hr : r ^ 3 = c * r + d) (bits : ℕ) (u : Quadratic) {e : ℕ} (he : e < 2 ^ bits) :
    (pow p c d bits u e).eval r = u.eval r ^ e := by
  induction bits generalizing u e with
  | zero =>
    obtain rfl : e = 0 := by simpa using he
    simp [pow, Quadratic.eval]
  | succ bits ih =>
    have hrest := ih (mul p c d u u) (e := e / 2) (by omega)
    rw [eval_mul hr, ← pow_two, ← pow_mul] at hrest
    unfold pow
    simp only
    split_ifs with hodd
    · rw [eval_mul hr, hrest, ← pow_succ']
      congr 1
      omega
    · rw [hrest]
      congr 1
      omega

theorem eval_lessX (hp : 0 < p) (u : Quadratic) : (lessX p u).eval r = u.eval r - r := by
  simp only [lessX, Quadratic.eval]
  rw [Nat.cast_add, Nat.cast_sub hp, ZMod.natCast_self, Nat.cast_one]
  ring

/-- **A cubic that passes has no root.** -/
theorem no_root [Fact p.Prime] {bits : ℕ} {inv : Quadratic} (h : check p c d bits inv = true)
    (r : ZMod p) : r ^ 3 ≠ c * r + d := by
  intro hr
  simp only [check, Bool.and_eq_true, decide_eq_true_eq, beq_iff_eq] at h
  obtain ⟨⟨⟨⟨hbits, hpos⟩, h0⟩, h1⟩, h2⟩ := h
  have hone := eval_mul hr inv (lessX p (pow p c d bits ⟨0, 1, 0⟩ p))
  have hx : (⟨0, 1, 0⟩ : Quadratic).eval r = r := by simp [Quadratic.eval]
  rw [eval_lessX hpos, eval_pow hr bits _ hbits, hx, ZMod.pow_card, sub_self, mul_zero,
    Quadratic.eval, h0, h1, h2] at hone
  simp at hone

end

end EspMid.Lib.Cubic
