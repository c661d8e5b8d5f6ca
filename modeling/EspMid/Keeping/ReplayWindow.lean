import EspMid.Lib.Ring
import EspMid.Lib.Runs
import EspMid.Model.Nonce

/-! # The replay window

Over any run of checks and clears, the window is a ring of the nonces accepted since the last clear:
it contains the last `N` of them, which are distinct, and accepts exactly what it does not contain.
A nonce is refused from its acceptance on until `N` more are accepted. -/

namespace EspMid.Keeping.ReplayWindow

open EspMid.Lib.Ring EspMid.Lib.Runs EspMid.Model.Core EspMid.Model.Nonce

variable {N : ℕ} {w : NonceWindow N} {log : List (Array8 32)} {nonce : Array8 32}

/-! ### One call -/

theorem contains_iff : w.contains nonce = true ↔ nonce ∈ w.seen.toList.take w.len := by
  unfold NonceWindow.contains
  simp

theorem checkAndInsert_of_contains (h : w.contains nonce = true) :
    w.checkAndInsert nonce = (false, w) := by
  unfold NonceWindow.checkAndInsert
  rw [dif_pos (Or.inr h)]

theorem checkAndInsert_fst (hN : 0 < N) :
    (w.checkAndInsert nonce).1 = true ↔ w.contains nonce = false := by
  unfold NonceWindow.checkAndInsert
  split_ifs with h
  · have hc : w.contains nonce = true := h.resolve_left hN.ne'
    simp [hc]
  · have hc : w.contains nonce = false := by
      rw [← Bool.not_eq_true]
      exact fun hc => h (Or.inr hc)
    simp [hc]

/-- The window remembers the accepted nonces of the log. -/
structure Remembers (w : NonceWindow N) (log : List (Array8 32)) : Prop where
  holds : Holds N w.seen.toList w.len w.next log
  spaced : Spaced N log

theorem remembers_new (N : ℕ) : Remembers (NonceWindow.new N) [] :=
  ⟨holds_nil (List.Vector.toList_length _), spaced_nil N⟩

theorem remembers_clear (w : NonceWindow N) : Remembers w.clear [] :=
  ⟨holds_nil w.seen.toList_length, spaced_nil N⟩

theorem Remembers.contains_iff_mem (h : Remembers w log) :
    w.contains nonce = true ↔ nonce ∈ log.rtake N := by
  rw [contains_iff, h.holds.mem_take]

/-- The log after a call, as the caller sees it. -/
def logged (log : List (Array8 32)) (nonce : Array8 32) (accepted : Bool) : List (Array8 32) :=
  if accepted then log ++ [nonce] else log

/-- **One call keeps the log.** -/
theorem Remembers.checkAndInsert (h : Remembers w log) (nonce : Array8 32) :
    Remembers (w.checkAndInsert nonce).2 (logged log nonce (w.checkAndInsert nonce).1) := by
  unfold NonceWindow.checkAndInsert
  split_ifs with hrefused
  · exact h
  · have hN : 0 < N := Nat.pos_of_ne_zero fun h0 => hrefused (Or.inl h0)
    have hnew : nonce ∉ log.rtake N := fun hmem =>
      hrefused (Or.inr (h.contains_iff_mem.mpr hmem))
    refine ⟨?_, h.spaced.concat hnew⟩
    have hpush := h.holds.push hN nonce
    rwa [← List.Vector.toList_set _ ⟨w.next, w.next_lt hN⟩] at hpush

/-! ### Runs -/

/-- A call of the window's owner. -/
inductive Op where
  | checkAndInsert (nonce : Array8 32)
  | clear

/-- A window, with the nonces it accepted since it was last cleared. -/
structure Watched (N : ℕ) where
  window : NonceWindow N
  accepted : List (Array8 32)

/-- A call, and what it does to the record of what was accepted. -/
def Watched.step (s : Watched N) : Op → Watched N
  | .checkAndInsert nonce =>
    { window := (s.window.checkAndInsert nonce).2
      accepted := logged s.accepted nonce (s.window.checkAndInsert nonce).1 }
  | .clear => { window := s.window.clear, accepted := [] }

/-- The window after several calls. -/
def Watched.after (s : Watched N) (ops : List Op) : Watched N := ops.foldl Watched.step s

/-- A fresh window. -/
def fresh (N : ℕ) : Watched N := ⟨NonceWindow.new N, []⟩

variable {s : Watched N}

/-- **Step.** -/
theorem Remembers.step (h : Remembers s.window s.accepted) (op : Op) :
    Remembers (s.step op).window (s.step op).accepted := by
  cases op with
  | checkAndInsert nonce => exact h.checkAndInsert nonce
  | clear => exact remembers_clear s.window

/-- **Run.** -/
theorem Remembers.after (h : Remembers s.window s.accepted) (ops : List Op) :
    Remembers (s.after ops).window (s.after ops).accepted := by
  induction ops generalizing s with
  | nil => exact h
  | cons op ops ih => exact ih (h.step op)

theorem accepted_after {ops : List Op} (h : Op.clear ∉ ops) :
    ∃ more, (s.after ops).accepted = s.accepted ++ more := by
  induction ops generalizing s with
  | nil => exact ⟨[], (List.append_nil _).symm⟩
  | cons op ops ih =>
    obtain ⟨hop, hops⟩ := not_or.mp (fun hc => h (List.mem_cons.mpr hc))
    obtain ⟨more, hmore⟩ := ih (s := s.step op) hops
    have hafter : (s.after (op :: ops)).accepted = (s.step op).accepted ++ more := hmore
    cases op with
    | checkAndInsert nonce =>
      rw [hafter]
      simp only [Watched.step, logged]
      split_ifs
      · exact ⟨nonce :: more, by simp⟩
      · exact ⟨more, rfl⟩
    | clear => exact absurd rfl hop

/-- Accepted, and then `more`: the nonce is in the window until those are `N`. -/
theorem Remembers.refused_until (hN : 0 < N) {more : List (Array8 32)}
    (h : Remembers w (log ++ nonce :: more)) :
    (more.length < N → (w.checkAndInsert nonce).1 = false) ∧
      (more.length = N → (w.checkAndInsert nonce).1 = true) := by
  constructor
  · intro hfew
    have hmem : nonce ∈ (log ++ nonce :: more).rtake N := by
      refine mem_rtake_iff.mpr ⟨log.length, ?_, by simp⟩
      rw [List.length_append, List.length_cons]
      omega
    rw [checkAndInsert_of_contains (h.contains_iff_mem.mpr hmem)]
  · intro hmore
    -- among the last `N + 1` the nonce is there once, as the first
    have hnodup := h.spaced.nodup
    have hlast : (log ++ nonce :: more).rtake (N + 1) = nonce :: more := by
      unfold List.rtake
      rw [List.length_append, List.length_cons, hmore, Nat.add_sub_cancel, List.drop_left]
    have hwindow : (log ++ nonce :: more).rtake N = more := by
      have hsplit : log ++ nonce :: more = (log ++ [nonce]) ++ more := by simp
      unfold List.rtake
      rw [hsplit, List.length_append, hmore, Nat.add_sub_cancel, List.drop_left]
    rw [hlast] at hnodup
    rw [checkAndInsert_fst hN, ← Bool.not_eq_true, h.contains_iff_mem, hwindow]
    exact (List.nodup_cons.mp hnodup).1

/-- **The window is the last `N` accepted nonces**, after any run from a fresh one. -/
theorem window_is_last_accepted (hN : 0 < N) (ops : List Op) :
    let s := (fresh N).after ops
    (∀ nonce, s.window.contains nonce = true ↔ nonce ∈ s.accepted.rtake N) ∧
      (s.accepted.rtake N).Nodup ∧
      s.window.len = min N s.accepted.length ∧
      (∀ nonce, ((s.window.checkAndInsert nonce).1 = true ↔ s.window.contains nonce = false) ∧
        ((s.window.checkAndInsert nonce).1 = false →
          (s.window.checkAndInsert nonce).2 = s.window)) ∧
      ∀ nonce, (s.window.checkAndInsert nonce).1 = true → ∀ later, Op.clear ∉ later →
        let s' := s.after (.checkAndInsert nonce :: later)
        ∃ more, s'.accepted = s.accepted ++ nonce :: more ∧
          (more.length < N → (s'.window.checkAndInsert nonce).1 = false) ∧
          (more.length = N → (s'.window.checkAndInsert nonce).1 = true) := by
  intro s
  have hs : Remembers s.window s.accepted := (remembers_new N).after ops
  refine ⟨fun nonce => hs.contains_iff_mem, ?_, hs.holds.len_eq, ?_, ?_⟩
  · have hsub : s.accepted.rtake N <:+ s.accepted.rtake (N + 1) := by
      unfold List.rtake
      exact List.drop_suffix_drop_left _ (by omega)
    exact hs.spaced.nodup.sublist hsub.sublist
  · intro nonce
    refine ⟨checkAndInsert_fst hN, fun hfalse => ?_⟩
    have hc : s.window.contains nonce = true := by
      rw [← Bool.not_eq_false, ← checkAndInsert_fst hN, hfalse]
      decide
    rw [checkAndInsert_of_contains hc]
  · intro nonce hnew later hlater s'
    have hlog : (s.step (.checkAndInsert nonce)).accepted = s.accepted ++ [nonce] := by
      simp only [Watched.step, logged, hnew, if_true]
    obtain ⟨more, hmore⟩ := accepted_after (s := s.step (.checkAndInsert nonce)) hlater
    have haccepted : s'.accepted = s.accepted ++ nonce :: more := by
      refine hmore.trans ?_
      rw [hlog]
      simp
    have hs' : Remembers s'.window s'.accepted := hs.after _
    rw [haccepted] at hs'
    exact ⟨more, haccepted, hs'.refused_until hN⟩

/-- In a window of three, a nonce is refused after two more, and accepted again after a third. -/
theorem nonce_accepted_again :
    let nonce (b : UInt8) : Array8 32 := List.Vector.replicate 32 b
    let two : Watched 3 := (fresh 3).after
      [.checkAndInsert (nonce 1), .checkAndInsert (nonce 2), .checkAndInsert (nonce 3)]
    let three : Watched 3 := (fresh 3).after
      [.checkAndInsert (nonce 1), .checkAndInsert (nonce 2), .checkAndInsert (nonce 3),
        .checkAndInsert (nonce 4)]
    (two.window.checkAndInsert (nonce 1)).1 = false ∧
      (three.window.checkAndInsert (nonce 1)).1 = true := by
  intro nonce two three
  have hN : 0 < 3 := by decide
  obtain ⟨-, -, -, -, huntil⟩ := window_is_last_accepted hN []
  have htwo : two.accepted = [nonce 1, nonce 2, nonce 3] := by decide
  have hthree : three.accepted = [nonce 1, nonce 2, nonce 3, nonce 4] := by decide
  constructor
  · obtain ⟨more, hmore, hrefused, -⟩ := huntil (nonce 1) (by decide)
      [.checkAndInsert (nonce 2), .checkAndInsert (nonce 3)] (by simp)
    have hlen := congrArg List.length (htwo.symm.trans hmore)
    exact hrefused (by simp [fresh, Watched.after] at hlen; omega)
  · obtain ⟨more, hmore, -, haccepted⟩ := huntil (nonce 1) (by decide)
      [.checkAndInsert (nonce 2), .checkAndInsert (nonce 3), .checkAndInsert (nonce 4)] (by simp)
    have hlen := congrArg List.length (hthree.symm.trans hmore)
    exact haccepted (by simp [fresh, Watched.after] at hlen; omega)

end EspMid.Keeping.ReplayWindow
