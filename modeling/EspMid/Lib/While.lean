import Mathlib.Data.Nat.Init

/-! # While loops

A `while` loop with a bound on its turns: `none` is a bound that ran out. A loop that keeps an
invariant and makes a measure less in every turn ends with the invariant and its condition false,
for every bound above the measure (`loop_spec`). -/

namespace EspMid.Lib.While

variable {σ : Type*} {cond : σ → Bool} {body : σ → Option σ}

/-- `while cond { body }`. -/
def loop (cond : σ → Bool) (body : σ → Option σ) : ℕ → σ → Option σ
  | 0, _ => none
  | k + 1, s => if cond s then (body s).bind (loop cond body k) else some s

/-- **The rule of the loop**, for total correctness. -/
theorem loop_spec {inv : σ → Prop} {m : σ → ℕ}
    (hbody : ∀ s, inv s → cond s = true →
      ∃ s', body s = some s' ∧ inv s' ∧ m s' < m s) {k : ℕ} {s : σ} (hs : inv s)
    (hk : m s < k) : ∃ s', loop cond body k s = some s' ∧ inv s' ∧ cond s' = false := by
  induction k generalizing s with
  | zero => omega
  | succ k ih =>
    rw [loop]
    cases hc : cond s with
    | false => exact ⟨s, rfl, hs, hc⟩
    | true =>
      obtain ⟨s', hb, hs', hlt⟩ := hbody s hs hc
      rw [if_pos rfl, hb]
      exact ih hs' (by omega)

end EspMid.Lib.While
