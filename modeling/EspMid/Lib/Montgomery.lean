import EspMid.Lib.Limbs
import Mathlib.Data.Nat.ModEq

/-! # Division by rounds

Reduction in the manner of Montgomery: a round adds a product and the multiple of the modulus that
clears the low limb, and divides by the base. Whatever multiples the rounds took, `k` of them leave
the exact quotient by `B ^ k` of the sum and some multiple of the modulus (`rounds`), and that is
below twice the modulus (`lt_two_mul`). -/

namespace EspMid.Lib.Montgomery

open EspMid.Lib.Limbs

variable {B N : ℕ}

/-- A round took the number `T` with the product `v` to `T'`. -/
def Round (B N v T T' : ℕ) : Prop := ∃ m < B, B * T' = T + v + m * N

/-- `k` rounds took the number `T` with the product `v` to `T'`. -/
def Rounds (B N k v T T' : ℕ) : Prop := ∃ m < B ^ k, B ^ k * T' = T + v + m * N

theorem Rounds.zero (T : ℕ) : Rounds B N 0 0 T T := ⟨0, by simp, by simp⟩

theorem Rounds.cons {k v w T T' T'' : ℕ} (h : Round B N v T T') (hs : Rounds B N k w T' T'') :
    Rounds B N (k + 1) (v + B * w) T T'' := by
  obtain ⟨m, hm, e⟩ := h
  obtain ⟨ms, hms, es⟩ := hs
  refine ⟨m + B * ms, ?_, ?_⟩
  · have : B * (ms + 1) ≤ B * B ^ k := Nat.mul_le_mul_left B hms
    rw [pow_succ, mul_comm (B ^ k)]
    linarith
  · calc B ^ (k + 1) * T'' = B * (B ^ k * T'') := by ring
      _ = B * T' + B * w + B * ms * N := by rw [es]; ring
      _ = T + (v + B * w) + (m + B * ms) * N := by rw [e]; ring

theorem Rounds.snoc {k v w T T' T'' : ℕ} (hs : Rounds B N k v T T') (h : Round B N w T' T'') :
    Rounds B N (k + 1) (v + B ^ k * w) T T'' := by
  obtain ⟨ms, hms, es⟩ := hs
  obtain ⟨m, hm, e⟩ := h
  refine ⟨ms + B ^ k * m, ?_, ?_⟩
  · have : B ^ k * (m + 1) ≤ B ^ k * B := Nat.mul_le_mul_left (B ^ k) hm
    rw [pow_succ]
    linarith
  · calc B ^ (k + 1) * T'' = B ^ k * (B * T'') := by ring
      _ = B ^ k * T' + B ^ k * w + B ^ k * m * N := by rw [e]; ring
      _ = T + (v + B ^ k * w) + (ms + B ^ k * m) * N := by rw [es]; ring

/-- A number below twice the modulus stays there. -/
theorem Round.lt {a x T T' : ℕ} (h : Round B N (a * x) T T') (ha : a < N) (hx : x < B)
    (hT : T < 2 * N) : T' < 2 * N := by
  obtain ⟨m, hm, e⟩ := h
  have hax : a * x ≤ N * (B - 1) := Nat.mul_le_mul ha.le (by omega)
  have hmN : m * N ≤ (B - 1) * N := Nat.mul_le_mul_right N (by omega)
  obtain ⟨b, rfl⟩ : ∃ b, B = b + 1 := ⟨B - 1, by omega⟩
  simp only [Nat.add_sub_cancel] at hax hmN
  by_contra hcon
  have : (b + 1) * (2 * N) ≤ (b + 1) * T' := Nat.mul_le_mul_left _ (by omega)
  nlinarith

theorem Rounds.lt_two_mul {k v T T' : ℕ} (h : Rounds B N k v T T') (hv : T + v < N * B ^ k) :
    T' < 2 * N := by
  obtain ⟨m, hm, e⟩ := h
  have hmN : m * N ≤ B ^ k * N := Nat.mul_le_mul_right N hm.le
  refine Nat.lt_of_mul_lt_mul_left (a := B ^ k) ?_
  rw [e]
  linarith

theorem Rounds.modEq {k v T T' : ℕ} (h : Rounds B N k v T T') :
    B ^ k * T' ≡ T + v [MOD N] := by
  obtain ⟨m, -, e⟩ := h
  rw [e]
  exact (Nat.add_mul_modulus_modEq_iff).mpr rfl

/-- **A loop of rounds.** Each step multiplies by one limb of the list; the whole loop has
multiplied by the number of the list. -/
theorem rounds {σ δ : Type*} {step : σ → δ → σ} {num : σ → ℕ} {read : δ → ℕ} {ok : σ → Prop}
    {a : ℕ} (hstep : ∀ s, ok s → ∀ x, ok (step s x) ∧
      Round B N (a * read x) (num s) (num (step s x)))
    (xs : List δ) {s : σ} (hs : ok s) :
    ok (xs.foldl step s) ∧
      Rounds B N xs.length (a * value B read xs) (num s) (num (xs.foldl step s)) := by
  induction xs generalizing s with
  | nil => exact ⟨hs, Rounds.zero _⟩
  | cons x xs ih =>
    obtain ⟨hok, hround⟩ := hstep s hs x
    obtain ⟨hend, hrest⟩ := ih hok
    refine ⟨hend, ?_⟩
    have h := Rounds.cons hround hrest
    rwa [show a * read x + B * (a * value B read xs) = a * value B read (x :: xs) by
      rw [value_cons]; ring] at h

end EspMid.Lib.Montgomery
