import Mathlib.Data.Nat.Init
import Mathlib.Data.List.Basic

/-! # Runs

A run folds a step over a list of labels; the state after `i` steps is the fold over the first `i`.
What every step preserves holds in every state from there on (`foldl_take_induct`). -/

namespace EspMid.Lib.Runs

variable {σ α : Type} {step : σ → α → σ} {xs : List α} {s : σ}

theorem foldl_take_succ {i : ℕ} (h : i < xs.length) :
    (xs.take (i + 1)).foldl step s = step ((xs.take i).foldl step s) xs[i] := by
  rw [List.take_add_one, List.getElem?_eq_getElem h, List.foldl_append]
  rfl

/-- **The invariant rule.** -/
theorem foldl_take_induct {P : σ → Prop} {i : ℕ} (hi : P ((xs.take i).foldl step s))
    (hstep : ∀ (j : ℕ) (hj : j < xs.length), i ≤ j → P ((xs.take j).foldl step s) →
      P (step ((xs.take j).foldl step s) xs[j])) :
    ∀ j, i ≤ j → j ≤ xs.length → P ((xs.take j).foldl step s) := by
  intro j hij
  induction j, hij using Nat.le_induction with
  | base => exact fun _ => hi
  | succ j hij ih =>
    intro hj
    rw [foldl_take_succ hj]
    exact hstep j hj hij (ih (by omega))

theorem foldl_take_invariant {P : σ → Prop} (h : P s)
    (hstep : ∀ (j : ℕ) (hj : j < xs.length), P ((xs.take j).foldl step s) →
      P (step ((xs.take j).foldl step s) xs[j])) :
    ∀ i ≤ xs.length, P ((xs.take i).foldl step s) :=
  fun i => foldl_take_induct (i := 0) h (fun j hj _ => hstep j hj) i (Nat.zero_le i)

end EspMid.Lib.Runs
