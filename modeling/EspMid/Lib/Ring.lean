import Mathlib.Data.List.DropRight
import Mathlib.Data.List.Nodup
import Mathlib.Order.Interval.Finset.Nat

/-! # The last items of a log, in a ring

A ring of `N` slots with a length and a write cursor, written at the cursor: it holds the last `N`
items of the log of what was written (`Holds`), each item at its index modulo `N`. Its filled slots
are searched as a prefix (`Holds.mem_take`). Where nothing is written that is still in the ring,
items that are equal lie more than `N` apart (`Spaced`). -/

namespace EspMid.Lib.Ring

variable {α : Type} {N : ℕ} {slots log : List α} {len next : ℕ} {x : α}

/-! ### The ring and its log -/

/-- The slots hold the last `N` items of the log. -/
structure Holds (N : ℕ) (slots : List α) (len next : ℕ) (log : List α) : Prop where
  size : slots.length = N
  len_eq : len = min N log.length
  next_eq : next = log.length % N
  slot : ∀ j < log.length, log.length ≤ j + N → slots[j % N]? = log[j]?

theorem holds_nil (h : slots.length = N) : Holds N slots 0 0 [] :=
  ⟨h, by simp, by simp, by simp⟩

/-- **Writing at the cursor.** -/
theorem Holds.push (h : Holds N slots len next log) (hN : 0 < N) (x : α) :
    Holds N (slots.set next x) (if len < N then len + 1 else len) ((next + 1) % N)
      (log ++ [x]) := by
  obtain ⟨hsize, hlen, hnext, hslot⟩ := h
  refine ⟨by simp [hsize], ?_, ?_, ?_⟩
  · rw [List.length_append, List.length_singleton]
    split_ifs <;> omega
  · rw [List.length_append, List.length_singleton, hnext, Nat.mod_add_mod]
  · intro j hj hwindow
    rw [List.length_append, List.length_singleton] at hj hwindow
    have hlt : next < slots.length := by
      rw [hsize, hnext]
      exact Nat.mod_lt _ hN
    rcases Nat.lt_succ_iff_lt_or_eq.mp hj with hold | rfl
    · -- an older item is in another slot
      have hne : next ≠ j % N := by
        intro heq
        have hsame := Nat.mod_injOn_Ico j N (Finset.mem_coe.mpr (Finset.mem_Ico.mpr ⟨le_rfl, by omega⟩))
          (Finset.mem_coe.mpr (Finset.mem_Ico.mpr ⟨hold.le, by omega⟩)) (heq.symm.trans hnext)
        omega
      rw [List.getElem?_set_ne hne, List.getElem?_append_left hold]
      exact hslot j hold (by omega)
    · rw [← hnext, List.getElem?_set_self hlt]
      simp

/-! ### Searching -/

theorem mem_rtake_iff : x ∈ log.rtake N ↔ ∃ j, log.length ≤ j + N ∧ log[j]? = some x := by
  unfold List.rtake
  rw [List.mem_iff_getElem?]
  simp only [List.getElem?_drop]
  constructor
  · rintro ⟨i, hi⟩
    exact ⟨_, by omega, hi⟩
  · rintro ⟨j, hj, hx⟩
    refine ⟨j - (log.length - N), ?_⟩
    rwa [Nat.add_sub_cancel' (by omega)]

/-- **What the filled slots hold.** -/
theorem Holds.mem_take (h : Holds N slots len next log) : x ∈ slots.take len ↔ x ∈ log.rtake N := by
  obtain ⟨hsize, hlen, -, hslot⟩ := h
  rw [mem_rtake_iff, List.mem_iff_getElem?]
  constructor
  · rintro ⟨i, hi⟩
    rw [List.getElem?_take] at hi
    split_ifs at hi with hbound
    -- the last index in the window that is `i` modulo `N`
    have hN : 0 < N := by omega
    have hmod := Nat.mod_lt (log.length - 1 - i) hN
    have hdiv := Nat.div_add_mod (log.length - 1 - i) N
    obtain ⟨q, hq⟩ : ∃ q, q = (log.length - 1 - i) / N := ⟨_, rfl⟩
    rw [← hq] at hdiv
    have hj : log.length - 1 - (log.length - 1 - i) % N = i + N * q := by omega
    have hslotj := hslot (i + N * q) (by omega) (by omega)
    rw [Nat.add_mul_mod_self_left, Nat.mod_eq_of_lt (by omega), hi] at hslotj
    exact ⟨_, by omega, hslotj.symm⟩
  · rintro ⟨j, hwindow, hx⟩
    have hj : j < log.length := (List.getElem?_eq_some_iff.mp hx).1
    have hN : 0 < N := by omega
    have hmod := Nat.mod_lt j hN
    have hle := Nat.mod_le j N
    refine ⟨j % N, ?_⟩
    rw [List.getElem?_take_of_lt (by omega), hslot j hj hwindow, hx]

/-! ### Equal items -/

/-- Equal items are more than `N` apart. -/
def Spaced (N : ℕ) (log : List α) : Prop :=
  ∀ i j, i < j → j < log.length → log[i]? = log[j]? → i + N < j

theorem spaced_nil (N : ℕ) : Spaced N ([] : List α) := by
  intro i j _ hj
  cases hj

theorem Spaced.concat (h : Spaced N log) (hx : x ∉ log.rtake N) : Spaced N (log ++ [x]) := by
  intro i j hij hj heq
  rw [List.length_append, List.length_singleton] at hj
  rcases Nat.lt_succ_iff_lt_or_eq.mp hj with hold | rfl
  · rw [List.getElem?_append_left hold, List.getElem?_append_left (by omega)] at heq
    exact h i j hij hold heq
  · rw [List.getElem?_append_left hij] at heq
    by_contra hnear
    refine hx (mem_rtake_iff.mpr ⟨i, by omega, ?_⟩)
    simpa using heq

/-- Among the last `N + 1` items none are equal. -/
theorem Spaced.nodup (h : Spaced N log) : (log.rtake (N + 1)).Nodup := by
  unfold List.rtake
  rw [List.nodup_iff_getElem?_ne_getElem?]
  intro i j hij hj heq
  rw [List.length_drop] at hj
  rw [List.getElem?_drop, List.getElem?_drop] at heq
  have hfar := h _ _ (by omega) (by omega) heq
  omega

end EspMid.Lib.Ring
