import Mathlib.Data.List.Basic

/-! # Writers into a caller's buffer

A writer is given a buffer; it answers a length or an error and leaves a buffer, or it panics
(`none`). It *fills* with a message if it puts that message at the front of the buffer or fails
without a trace, and nothing else; the length it answers is then that of what it wrote
(`Fills.take`). -/

namespace EspMid.Lib.Filling

variable {α ε : Type} {write : List α → Option (Except ε ℕ × List α)} {message out out' : List α}
  {n : ℕ}

/-- The writer never panics, an error leaves the buffer as it was, and a success puts the message at
its front. -/
structure Fills (write : List α → Option (Except ε ℕ × List α)) (message : List α) : Prop where
  total : ∀ out, write out ≠ none
  unchanged : ∀ out e out', write out = some (.error e, out') → out' = out
  written : ∀ out n out', write out = some (.ok n, out') →
    n = message.length ∧ n ≤ out.length ∧ out' = message ++ out.drop n

/-- A writer fills if of every buffer it either makes nothing or puts the message there. -/
theorem fills_of_answers (h : ∀ out, (∃ e, write out = some (.error e, out)) ∨
    message.length ≤ out.length ∧
      write out = some (.ok message.length, message ++ out.drop message.length)) :
    Fills write message := by
  refine ⟨fun out hnone => ?_, fun out e out' herror => ?_, fun out n out' hok => ?_⟩
  · rcases h out with ⟨e, heq⟩ | ⟨-, heq⟩
    · rw [heq] at hnone
      cases hnone
    · rw [heq] at hnone
      cases hnone
  · rcases h out with ⟨e', heq⟩ | ⟨-, heq⟩
    · rw [heq] at herror
      cases herror
      rfl
    · rw [heq] at herror
      cases herror
  · rcases h out with ⟨e, heq⟩ | ⟨hle, heq⟩
    · rw [heq] at hok
      cases hok
    · rw [heq] at hok
      cases hok
      exact ⟨rfl, hle, rfl⟩

/-- **What is answered is what was written.** -/
theorem Fills.take (h : Fills write message) (hok : write out = some (.ok n, out')) :
    out'.take n = message := by
  obtain ⟨rfl, -, rfl⟩ := h.written _ _ _ hok
  exact List.take_left

end EspMid.Lib.Filling
