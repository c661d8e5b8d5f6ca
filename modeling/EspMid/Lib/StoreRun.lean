import EspMid.Lib.StoreProg

/-! # Uninterrupted runs, and runs cut short

`run` is what a program does when nothing goes wrong, and `runWrites` the writes it then makes; both
compose along `bind`. A fail-stop program that draws nothing, run with whatever failing writes and
cuts, makes a prefix of `runWrites`; short of all of them it ends in an error or is cut
(`exec_interrupted`). A list of writes applied over a prefix of itself has the effect of the list
alone (`applyAll_take_all`), so what a rerun repeats it need not undo. -/

namespace EspMid.Lib.StoreProg

variable {S K β ε α γ : Type}

/-- The program draws nothing. -/
def Drawless : Prog S K β ε α → Prop
  | .ret _ => True
  | .get _ _ _ next => ∀ r, Drawless (next r)
  | .put _ _ _ next => ∀ r, Drawless (next r)
  | .remove _ _ next => ∀ r, Drawless (next r)
  | .draw _ _ => False

theorem Drawless.bind {p : Prog S K β ε α} {f : α → Prog S K β ε γ} (hp : Drawless p)
    (hf : ∀ a, Drawless (f a)) : Drawless (p.bind f) := by
  induction p with
  | ret a => exact hf a
  | get s k cap next ih => exact fun r => ih r (hp r)
  | put s k v next ih => exact fun r => ih r (hp r)
  | remove s k next ih => exact fun r => ih r (hp r)
  | draw n next ih => exact hp.elim

/-- The program stops at the first write that fails, and draws nothing. -/
structure Orderly (p : Proc S K β ε α) : Prop where
  failStop : FailStop p
  drawless : Drawless p

namespace Orderly

theorem bind {p : Proc S K β ε α} {f : α → Proc S K β ε γ} (hp : Orderly p)
    (hf : ∀ a, Orderly (f a)) : Orderly (p >>= f) := by
  refine ⟨FailStop.bind hp.failStop fun a => (hf a).failStop, Drawless.bind hp.drawless ?_⟩
  intro r
  cases r with
  | ok a => exact (hf a).drawless
  | error e => exact True.intro

theorem ret (r : Except ε α) : Orderly (Proc.ofExcept r : Proc S K β ε α) :=
  ⟨True.intro, True.intro⟩

theorem pure (a : α) : Orderly (Pure.pure a : Proc S K β ε α) := ret (.ok a)

theorem fail (e : ε) : Orderly (Proc.fail e : Proc S K β ε α) := ret (.error e)

theorem get (s : S) (k : K) (cap : ℕ) : Orderly (Proc.get s k cap : Proc S K β ε _) :=
  ⟨fun _ => True.intro, fun _ => True.intro⟩

theorem attemptGet (s : S) (k : K) (cap : ℕ) :
    Orderly (Proc.get s k cap : Proc S K β ε _).attempt :=
  ⟨fun _ => True.intro, fun _ => True.intro⟩

theorem put (s : S) (k : K) (v : List β) : Orderly (Proc.put s k v : Proc S K β ε Unit) :=
  ⟨⟨fun _ => rfl, True.intro⟩, fun _ => True.intro⟩

theorem remove (s : S) (k : K) : Orderly (Proc.remove s k : Proc S K β ε Bool) :=
  ⟨⟨fun _ => rfl, fun _ => True.intro⟩, fun _ => True.intro⟩

end Orderly

section Run
variable [DecidableEq S] [DecidableEq K] [StoreError ε] [Inhabited β]

/-- What the program returns when nothing goes wrong, and the stores it leaves. -/
def Prog.run : Prog S K β ε α → Stores S K β → α × Stores S K β
  | .ret a, σ => (a, σ)
  | .get s k cap next, σ => (next (σ.read s k cap)).run σ
  | .put s k v next, σ => (next (.ok ())).run (σ.set s k (some v))
  | .remove s k next, σ => (next (.ok (σ s k).isSome)).run (σ.set s k none)
  | .draw n next, σ => (next (.ok (List.Vector.replicate n default))).run σ

/-- The writes it then makes. -/
def Prog.runWrites : Prog S K β ε α → Stores S K β → List (Write S K β)
  | .ret _, _ => []
  | .get s k cap next, σ => (next (σ.read s k cap)).runWrites σ
  | .put s k v next, σ => .put s k v :: (next (.ok ())).runWrites (σ.set s k (some v))
  | .remove s k next, σ =>
    .remove s k :: (next (.ok (σ s k).isSome)).runWrites (σ.set s k none)
  | .draw n next, σ => (next (.ok (List.Vector.replicate n default))).runWrites σ

/-! ### Runs along a bind -/

theorem run_bind (p : Prog S K β ε α) (f : α → Prog S K β ε γ) :
    ∀ σ, (p.bind f).run σ = (f (p.run σ).1).run (p.run σ).2 := by
  induction p with
  | ret a => intro σ; rfl
  | get s k cap next ih => exact fun σ => ih _ _
  | put s k v next ih => exact fun σ => ih _ _
  | remove s k next ih => exact fun σ => ih _ _
  | draw n next ih => exact fun σ => ih _ _

theorem runWrites_bind (p : Prog S K β ε α) (f : α → Prog S K β ε γ) :
    ∀ σ, (p.bind f).runWrites σ =
      p.runWrites σ ++ (f (p.run σ).1).runWrites (p.run σ).2 := by
  induction p with
  | ret a => intro σ; rfl
  | get s k cap next ih => exact fun σ => ih _ _
  | put s k v next ih => exact fun σ => congrArg _ (ih _ _)
  | remove s k next ih => exact fun σ => congrArg _ (ih _ _)
  | draw n next ih => exact fun σ => ih _ _

namespace Proc

/-- The uninterrupted run of a fallible program. -/
def run (p : Proc S K β ε α) (σ : Stores S K β) : Except ε α × Stores S K β := Prog.run p σ

def runWrites (p : Proc S K β ε α) (σ : Stores S K β) : List (Write S K β) := Prog.runWrites p σ

variable (σ : Stores S K β)

@[simp] theorem run_bind (p : Proc S K β ε α) (f : α → Proc S K β ε γ) :
    (p >>= f).run σ =
      match p.run σ with
      | (.ok a, τ) => (f a).run τ
      | (.error e, τ) => (.error e, τ) := by
  refine (StoreProg.run_bind p _ σ).trans ?_
  unfold run
  rcases h : Prog.run p σ with ⟨_ | a, τ⟩
  · rfl
  · rfl

@[simp] theorem runWrites_bind (p : Proc S K β ε α) (f : α → Proc S K β ε γ) :
    (p >>= f).runWrites σ =
      p.runWrites σ ++
        match p.run σ with
        | (.ok a, τ) => (f a).runWrites τ
        | (.error _, _) => [] := by
  refine (StoreProg.runWrites_bind p _ σ).trans ?_
  unfold run runWrites
  rcases h : Prog.run p σ with ⟨_ | a, τ⟩
  · rfl
  · rfl

@[simp] theorem run_pure (a : α) : (pure a : Proc S K β ε α).run σ = (.ok a, σ) := rfl
@[simp] theorem run_fail (e : ε) : (fail e : Proc S K β ε α).run σ = (.error e, σ) := rfl
@[simp] theorem run_ofExcept (r : Except ε α) : (ofExcept r : Proc S K β ε α).run σ = (r, σ) := rfl
@[simp] theorem run_get (s : S) (k : K) (cap : ℕ) :
    (get s k cap : Proc S K β ε _).run σ = (σ.read s k cap, σ) := rfl
@[simp] theorem run_put (s : S) (k : K) (v : List β) :
    (put s k v : Proc S K β ε Unit).run σ = (.ok (), σ.set s k (some v)) := rfl
@[simp] theorem run_remove (s : S) (k : K) :
    (remove s k : Proc S K β ε Bool).run σ = (.ok (σ s k).isSome, σ.set s k none) := rfl
@[simp] theorem run_attempt (p : Proc S K β ε α) :
    p.attempt.run σ = (.ok (p.run σ).1, (p.run σ).2) := StoreProg.run_bind p _ σ

@[simp] theorem runWrites_pure (a : α) : (pure a : Proc S K β ε α).runWrites σ = [] := rfl
@[simp] theorem runWrites_fail (e : ε) : (fail e : Proc S K β ε α).runWrites σ = [] := rfl
@[simp] theorem runWrites_ofExcept (r : Except ε α) :
    (ofExcept r : Proc S K β ε α).runWrites σ = [] := rfl
@[simp] theorem runWrites_get (s : S) (k : K) (cap : ℕ) :
    (get s k cap : Proc S K β ε _).runWrites σ = [] := rfl
@[simp] theorem runWrites_put (s : S) (k : K) (v : List β) :
    (put s k v : Proc S K β ε Unit).runWrites σ = [.put s k v] := rfl
@[simp] theorem runWrites_remove (s : S) (k : K) :
    (remove s k : Proc S K β ε Bool).runWrites σ = [.remove s k] := rfl
@[simp] theorem runWrites_attempt (p : Proc S K β ε α) :
    p.attempt.runWrites σ = p.runWrites σ :=
  (StoreProg.runWrites_bind p _ σ).trans (List.append_nil _)

end Proc

/-- An uninterrupted run leaves the stores its writes make. -/
theorem run_stores (p : Prog S K β ε α) : ∀ σ, (p.run σ).2 = applyAll (p.runWrites σ) σ := by
  induction p with
  | ret a => intro σ; rfl
  | get s k cap next ih => exact fun σ => ih _ _
  | put s k v next ih => exact fun σ => ih _ _
  | remove s k next ih => exact fun σ => ih _ _
  | draw n next ih => exact fun σ => ih _ _

theorem Proc.run_stores (p : Proc S K β ε α) (σ : Stores S K β) :
    (p.run σ).2 = applyAll (p.runWrites σ) σ := StoreProg.run_stores p σ

theorem exec_calm (p : Prog S K β ε α) :
    ∀ σ, p.exec Faults.calm σ = (some (p.run σ).1, (p.run σ).2) := by
  induction p with
  | ret a => intro σ; rfl
  | get s k cap next ih => exact fun σ => ih _ _
  | put s k v next ih => exact fun σ => ih _ _
  | remove s k next ih => exact fun σ => ih _ _
  | draw n next ih => exact fun σ => ih _ _

theorem writes_calm (p : Prog S K β ε α) : ∀ σ, p.writes Faults.calm σ = p.runWrites σ := by
  induction p with
  | ret a => intro σ; rfl
  | get s k cap next ih => exact fun σ => ih _ _
  | put s k v next ih => exact fun σ => congrArg _ (ih _ _)
  | remove s k next ih => exact fun σ => congrArg _ (ih _ _)
  | draw n next ih => exact fun σ => ih _ _

/-! ### Interrupted runs -/

omit [DecidableEq S] [DecidableEq K] [StoreError ε] in
theorem readsDone_cutAfter (n : ℕ) : (Faults.cutAfter (β := β) (ε := ε) n).ReadsDone :=
  fun _ => rfl

omit [DecidableEq S] [DecidableEq K] [StoreError ε] in
theorem onlyCut_cutAfter (n : ℕ) : (Faults.cutAfter (β := β) (ε := ε) n).OnlyCut := by
  refine ⟨readsDone_cutAfter n, fun i => ?_⟩
  by_cases hi : i < n
  · exact Or.inl (if_pos hi)
  · exact Or.inr (if_neg hi)

/-- With its reads and writes done, a program that draws nothing runs as if nothing went wrong. -/
theorem exec_writesDone {p : Prog S K β ε α} (hp : Drawless p) :
    ∀ (F : Faults β ε) (σ : Stores S K β), F.ReadsDone →
      p.exec F.writesDone σ = (some (p.run σ).1, (p.run σ).2) ∧
        p.writes F.writesDone σ = p.runWrites σ := by
  induction p with
  | ret a => exact fun F σ _ => ⟨rfl, rfl⟩
  | get s k cap next ih =>
    intro F σ hF
    have hF0 : F.writesDone.read 0 = none := hF 0
    simp only [Prog.exec, Prog.writes, hF0]
    exact ih _ (hp _) F.tickRead σ fun i => hF (i + 1)
  | put s k v next ih =>
    intro F σ hF
    obtain ⟨h1, h2⟩ := ih _ (hp (.ok ())) F.tickWrite (σ.set s k (some v)) hF
    exact ⟨h1, congrArg _ h2⟩
  | remove s k next ih =>
    intro F σ hF
    obtain ⟨h1, h2⟩ := ih _ (hp (.ok (σ s k).isSome)) F.tickWrite (σ.set s k none) hF
    exact ⟨h1, congrArg _ h2⟩
  | draw n next ih => exact hp.elim

theorem exec_short {p : Prog S K β ε (Except ε α)} (hp : FailStop p) (hd : Drawless p) :
    ∀ (F : Faults β ε) (σ : Stores S K β), F.ReadsDone →
      Faults.lead F.write (p.runWrites σ).length < (p.runWrites σ).length →
        ∀ a, (p.exec F σ).1 ≠ some (.ok a) := by
  induction p with
  | ret r => exact fun F σ _ h => absurd h (by simp [Prog.runWrites])
  | get s k cap next ih =>
    intro F σ hF h
    simp only [Prog.exec, hF 0]
    exact ih _ (hp _) (hd _) F.tickRead σ (fun i => hF (i + 1)) h
  | put s k v next ih =>
    intro F σ hF h
    simp only [Prog.runWrites, List.length_cons, Faults.lead] at h
    simp only [Prog.exec]
    cases hw : F.write 0 with
    | done =>
      simp only [hw] at h
      exact ih _ hp.2 (hd _) F.tickWrite _ hF (Nat.lt_of_succ_lt_succ h)
    | failed e => simp [hp.1 e, Prog.exec]
    | cut => simp
  | remove s k next ih =>
    intro F σ hF h
    simp only [Prog.runWrites, List.length_cons, Faults.lead] at h
    simp only [Prog.exec]
    cases hw : F.write 0 with
    | done =>
      simp only [hw] at h
      exact ih _ (hp.2 _) (hd _) F.tickWrite _ hF (Nat.lt_of_succ_lt_succ h)
    | failed e => simp [hp.1 e, Prog.exec]
    | cut => simp
  | draw n next ih => exact hd.elim

/-- **An interrupted run.** An orderly program makes a prefix of its writes: all of them and it ends
as if nothing went wrong, or fewer and it does not end well. -/
theorem exec_interrupted {p : Proc S K β ε α} (hp : Orderly p) {F : Faults β ε} (hF : F.ReadsDone)
    (σ : Stores S K β) :
    (Prog.exec p F σ = (some (p.run σ).1, (p.run σ).2) ∧
        Faults.lead F.write (p.runWrites σ).length = (p.runWrites σ).length) ∨
      ((Prog.exec p F σ).2 =
          applyAll ((p.runWrites σ).take (Faults.lead F.write (p.runWrites σ).length)) σ ∧
        Faults.lead F.write (p.runWrites σ).length < (p.runWrites σ).length ∧
        ∀ a, (Prog.exec p F σ).1 ≠ some (.ok a)) := by
  obtain ⟨hexec, hwrites⟩ := exec_writesDone hp.drawless F σ hF
  obtain ⟨hpre, hall⟩ := exec_failStop hp.failStop F σ
  rw [hwrites] at hpre hall
  rcases lt_or_eq_of_le (Faults.lead_le F.write (p.runWrites σ).length) with hlt | heq
  · exact Or.inr ⟨(exec_stores _ F σ).trans (congrArg (applyAll · σ) hpre), hlt,
      exec_short hp.failStop hp.drawless F σ hF hlt⟩
  · exact Or.inl ⟨(hall heq).trans hexec, heq⟩

/-- With nothing but a cut to go wrong, a run that returns is uninterrupted. -/
theorem exec_of_onlyCut {p : Prog S K β ε α} (hp : Drawless p) :
    ∀ (F : Faults β ε) (σ : Stores S K β) (a : α), F.OnlyCut → (p.exec F σ).1 = some a →
      p.exec F σ = (some (p.run σ).1, (p.run σ).2) := by
  induction p with
  | ret a => exact fun F σ a _ _ => rfl
  | get s k cap next ih =>
    intro F σ a hF h
    simp only [Prog.exec, hF.1 0] at h ⊢
    exact ih _ (hp _) F.tickRead σ a ⟨fun i => hF.1 (i + 1), hF.2⟩ h
  | put s k v next ih =>
    intro F σ a hF h
    have hnext : F.tickWrite.OnlyCut := ⟨hF.1, fun i => hF.2 (i + 1)⟩
    simp only [Prog.exec] at h ⊢
    rcases hF.2 0 with hw | hw
    · simp only [hw] at h ⊢
      exact ih _ (hp _) F.tickWrite _ a hnext h
    · simp [hw] at h
  | remove s k next ih =>
    intro F σ a hF h
    have hnext : F.tickWrite.OnlyCut := ⟨hF.1, fun i => hF.2 (i + 1)⟩
    simp only [Prog.exec] at h ⊢
    rcases hF.2 0 with hw | hw
    · simp only [hw] at h ⊢
      exact ih _ (hp _) F.tickWrite _ a hnext h
    · simp [hw] at h
  | draw n next ih => exact hp.elim

/-- Whatever was interrupted, the stores hold the writes made before. -/
theorem exec_cutShort {p : Proc S K β ε α} (hp : Orderly p) {F : Faults β ε} (hF : F.ReadsDone)
    (σ : Stores S K β) :
    (Prog.exec p F σ).2 =
      applyAll ((p.runWrites σ).take (Faults.lead F.write (p.runWrites σ).length)) σ := by
  rcases exec_interrupted hp hF σ with ⟨h, hall⟩ | ⟨h, -⟩
  · rw [h, hall, List.take_length]
    exact Proc.run_stores p σ
  · exact h

omit [StoreError ε] in
theorem lead_cutAfter (n m : ℕ) :
    Faults.lead (Faults.cutAfter (β := β) (ε := ε) n).write m = min n m := by
  suffices h : ∀ i, Faults.lead (fun j => (Faults.cutAfter (β := β) (ε := ε) n).write (i + j)) m =
      min (n - i) m by simpa using h 0
  induction m with
  | zero => simp [Faults.lead]
  | succ m ih =>
    intro i
    have hs := ih (i + 1)
    simp only [Nat.add_assoc, Nat.add_comm 1] at hs
    simp only [Faults.lead, Nat.add_zero]
    by_cases hi : i < n
    · rw [show (Faults.cutAfter (β := β) (ε := ε) n).write i = .done from if_pos hi]
      simp only [hs]
      omega
    · rw [show (Faults.cutAfter (β := β) (ε := ε) n).write i = .cut from if_neg hi,
        Nat.sub_eq_zero_of_le (not_lt.mp hi), Nat.zero_min]

end Run

/-! ### Prefixes of a list of writes -/

section Prefixes
variable [DecidableEq S] [DecidableEq K]

/-- The key a write is to. -/
def Write.target : Write S K β → S × K
  | .put s k _ => (s, k)
  | .remove s k => (s, k)

/-- What the key then holds. -/
def Write.value : Write S K β → Option (List β)
  | .put _ _ v => some v
  | .remove _ _ => none

theorem Write.apply_eq (w : Write S K β) (σ : Stores S K β) :
    w.apply σ = σ.set w.target.1 w.target.2 w.value := by
  cases w with
  | put s k v => rfl
  | remove s k => rfl

theorem applyAll_frame {ws : List (Write S K β)} {s : S} {k : K}
    (h : ∀ w ∈ ws, w.target ≠ (s, k)) : ∀ σ, applyAll ws σ s k = σ s k := by
  induction ws with
  | nil => exact fun σ => rfl
  | cons w ws ih =>
    intro σ
    have hw : ¬ (s = w.target.1 ∧ k = w.target.2) := by
      rintro ⟨rfl, rfl⟩
      exact h w List.mem_cons_self rfl
    rw [applyAll_cons, ih fun v hv => h v (List.mem_cons_of_mem _ hv), Write.apply_eq,
      Stores.set_apply, if_neg hw]

theorem applyAll_congr {σ τ : Stores S K β} {s : S} (h : σ s = τ s) (ws : List (Write S K β)) :
    applyAll ws σ s = applyAll ws τ s := by
  induction ws generalizing σ τ with
  | nil => exact h
  | cons w ws ih =>
    have hw : w.apply σ s = w.apply τ s := by
      funext k
      rw [Write.apply_eq, Write.apply_eq, Stores.set_apply, Stores.set_apply, h]
    exact ih hw

theorem Write.apply_self {w : Write S K β} {σ : Stores S K β}
    (h : σ w.target.1 w.target.2 = w.value) : w.apply σ = σ := by
  rw [Write.apply_eq]
  funext s k
  rw [Stores.set_apply]
  split_ifs with hk
  · rw [hk.1, hk.2, h]
  · rfl

/-- The writes are to different keys. -/
def Separate (ws : List (Write S K β)) : Prop := ws.Pairwise fun w v => w.target ≠ v.target

/-- **Prefixes absorb each other**: after a prefix of separate writes, another prefix of the same
writes gives the longer of the two. -/
theorem applyAll_take_take {ws : List (Write S K β)} (h : Separate ws) :
    ∀ (m n : ℕ) (σ : Stores S K β),
      applyAll (ws.take m) (applyAll (ws.take n) σ) = applyAll (ws.take (max m n)) σ := by
  induction ws with
  | nil => intro m n σ; simp
  | cons w ws ih =>
    intro m n σ
    obtain ⟨hw, hws⟩ := List.pairwise_cons.mp h
    rcases m with _ | m
    · simp
    rcases n with _ | n
    · simp
    -- the write at the head is already in the shorter prefix, and nothing behind it undoes it
    have hframe : applyAll (ws.take n) (w.apply σ) w.target.1 w.target.2 =
        w.apply σ w.target.1 w.target.2 :=
      applyAll_frame (fun v hv => (hw v (List.mem_of_mem_take hv)).symm) _
    have hself : w.apply (applyAll (ws.take n) (w.apply σ)) = applyAll (ws.take n) (w.apply σ) := by
      refine Write.apply_self ?_
      rw [hframe, Write.apply_eq, Stores.set_self]
    rw [List.take_succ_cons, List.take_succ_cons, applyAll_cons, applyAll_cons, hself, ih hws,
      Nat.succ_max_succ, List.take_succ_cons, applyAll_cons]

end Prefixes

end EspMid.Lib.StoreProg
