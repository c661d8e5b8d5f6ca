import EspMid.Lib.Limbs
import Mathlib.Algebra.Order.Ring.Int
import Mathlib.Data.Int.Init
import Mathlib.Tactic.Ring

/-! # A multiplier by windows

A multiple computed from the digits of the multiplier: from the highest digit down, with a
multiplication by the base between two of them (`div_pow_eq`), or from the lowest digit up with
digits that may be negative and a carry (`upTo`). Every entry of a table is read to choose one
(`foldl_select`). -/

namespace EspMid.Lib.Windows

variable {σ α : Type*}

/-! ### The loops -/

theorem reverse_loop {f : σ → ℕ → σ} {I : ℕ → σ → Prop} {n : ℕ}
    (hstep : ∀ i < n, ∀ s, I (i + 1) s → I i (f s i)) {s : σ} (hs : I n s) :
    I 0 ((List.range n).reverse.foldl f s) := by
  induction n generalizing s with
  | zero => exact hs
  | succ n ih =>
    rw [List.range_succ, List.reverse_append, List.reverse_singleton, List.singleton_append,
      List.foldl_cons]
    exact ih (fun i hi => hstep i (by omega)) (hstep n (Nat.lt_succ_self n) s hs)

theorem zipIdx_loop {f : σ → α × ℕ → σ} {I : ℕ → σ → Prop} {l : List α} {m : ℕ}
    (hstep : ∀ i, (h : i < l.length) → ∀ s, I (m + i) s → I (m + i + 1) (f s (l[i], m + i)))
    {s : σ} (hs : I m s) : I (m + l.length) ((l.zipIdx m).foldl f s) := by
  induction l generalizing m s with
  | nil => exact hs
  | cons x l ih =>
    rw [List.zipIdx_cons, List.foldl_cons, List.length_cons, Nat.add_comm l.length 1,
      ← Nat.add_assoc]
    refine ih (fun i hi s => ?_) (hstep 0 (Nat.succ_pos _) s hs)
    have h := hstep (i + 1) (Nat.succ_lt_succ hi) s
    rw [List.getElem_cons_succ, Nat.add_comm i 1, ← Nat.add_assoc] at h
    exact h

/-- A choice that reads every entry: the one value there is to take, or the one before. -/
theorem foldl_select {same : α → Bool} {entry : α → σ} {l : List α} {v : σ}
    (hval : ∀ i ∈ l, same i = true → entry i = v) {t : σ} (h : t = v ∨ ∃ i ∈ l, same i = true) :
    l.foldl (fun t i => if same i then entry i else t) t = v := by
  induction l generalizing t with
  | nil => exact h.resolve_right fun ⟨i, hi, _⟩ => absurd hi List.not_mem_nil
  | cons x l ih =>
    rw [List.foldl_cons]
    refine ih (fun i hi => hval i (List.mem_cons_of_mem _ hi)) ?_
    by_cases hx : same x = true
    · rw [if_pos hx]
      exact Or.inl (hval x List.mem_cons_self hx)
    · rw [if_neg hx]
      refine h.imp_right fun ⟨i, hi, hsi⟩ => ⟨i, (List.mem_cons.mp hi).resolve_left ?_, hsi⟩
      rintro rfl
      exact hx hsi

/-! ### Digits from the highest down -/

theorem div_pow_eq (b k j : ℕ) : k / b ^ j = b * (k / b ^ (j + 1)) + k / b ^ j % b := by
  rw [pow_succ, ← Nat.div_div_eq_div_mul]
  exact (Nat.div_add_mod _ _).symm

/-- A window of `t` bits is read from any word that has them. -/
theorem window_mod (K : ℕ) {a s t : ℕ} (h : s + t ≤ a) :
    K % 2 ^ a / 2 ^ s % 2 ^ t = K / 2 ^ s % 2 ^ t := by
  refine Nat.eq_of_testBit_eq fun i => ?_
  simp only [Nat.testBit_mod_two_pow, Nat.testBit_div_two_pow]
  by_cases hi : i < t
  · have hia : i + s < a := by omega
    simp [hi, hia]
  · simp [hi]

/-! ### Signed digits from the lowest up -/

/-- The number of the digits below `i`, less the carry into digit `i`. -/
def upTo (b k i c : ℕ) : ℤ := (k % b ^ i : ℕ) - (c * b ^ i : ℕ)

theorem upTo_zero (b k : ℕ) : upTo b k 0 0 = 0 := by
  simp [upTo, Nat.mod_one]

theorem upTo_succ (b k i c c' : ℕ) :
    upTo b k (i + 1) c' =
      upTo b k i c + (((k / b ^ i % b + c : ℕ) : ℤ) - (b * c' : ℕ)) * (b ^ i : ℕ) := by
  have hmod : k % b ^ (i + 1) = k % b ^ i + b ^ i * (k / b ^ i % b) := by
    rw [pow_succ, Nat.mod_mul]
  unfold upTo
  rw [hmod, pow_succ]
  push_cast
  ring

/-- Digits enough for the number, and no carry out of them. -/
theorem upTo_of_lt {b k i : ℕ} (h : k < b ^ i) : upTo b k i 0 = k := by
  simp [upTo, Nat.mod_eq_of_lt h]

end EspMid.Lib.Windows
