import EspMid.Lib.StoreProg

/-! # Reasoning about store programs under every fault

`wp p Q C σ` says that `p`, started on the stores `σ` under whatever faults, ends in a result and
stores satisfying `Q`, or is cut with stores satisfying `C`. It composes along `bind`
(`wp_bind`, `wp_procBind`) and holds of every execution (`exec_of_wp`).

`WritesIn W p` says that every value `p` may write or remove, on any branch, is one that `W` allows;
whatever the faults, each key then holds what it held or what `W` allows (`exec_writesIn`). -/

namespace EspMid.Lib.StoreProg

variable {S K β ε α γ : Type}

/-! ### What a program may write -/

/-- Every write of the program, on any branch, is allowed by `W`. -/
def WritesIn (W : S → K → Option (List β) → Prop) : Prog S K β ε α → Prop
  | .ret _ => True
  | .get _ _ _ next => ∀ r, WritesIn W (next r)
  | .put s k v next => W s k (some v) ∧ ∀ r, WritesIn W (next r)
  | .remove s k next => W s k none ∧ ∀ r, WritesIn W (next r)
  | .draw _ next => ∀ r, WritesIn W (next r)

theorem WritesIn.mono {W W' : S → K → Option (List β) → Prop} (h : ∀ s k v, W s k v → W' s k v)
    {p : Prog S K β ε α} (hp : WritesIn W p) : WritesIn W' p := by
  induction p with
  | ret a => exact True.intro
  | get s k cap next ih => exact fun r => ih r (hp r)
  | put s k v next ih => exact ⟨h _ _ _ hp.1, fun r => ih r (hp.2 r)⟩
  | remove s k next ih => exact ⟨h _ _ _ hp.1, fun r => ih r (hp.2 r)⟩
  | draw n next ih => exact fun r => ih r (hp r)

theorem WritesIn.bind {W : S → K → Option (List β) → Prop} {p : Prog S K β ε α}
    {f : α → Prog S K β ε γ} (hp : WritesIn W p) (hf : ∀ a, WritesIn W (f a)) :
    WritesIn W (p.bind f) := by
  induction p with
  | ret a => exact hf a
  | get s k cap next ih => exact fun r => ih r (hp r)
  | put s k v next ih => exact ⟨hp.1, fun r => ih r (hp.2 r)⟩
  | remove s k next ih => exact ⟨hp.1, fun r => ih r (hp.2 r)⟩
  | draw n next ih => exact fun r => ih r (hp r)

theorem WritesIn.procBind {W : S → K → Option (List β) → Prop} {p : Proc S K β ε α}
    {f : α → Proc S K β ε γ} (hp : WritesIn W p) (hf : ∀ a, WritesIn W (f a)) :
    WritesIn W (p.bind f) := by
  unfold Proc at p f
  refine WritesIn.bind hp fun r => ?_
  cases r with
  | ok a => exact hf a
  | error e => exact True.intro

namespace WritesIn

variable {W : S → K → Option (List β) → Prop}

theorem ret (r : Except ε α) : WritesIn W (Proc.ofExcept r : Proc S K β ε α) := True.intro

theorem fail (e : ε) : WritesIn W (Proc.fail e : Proc S K β ε α) := True.intro

theorem pure (a : α) : WritesIn W (Pure.pure a : Proc S K β ε α) := True.intro

theorem get (s : S) (k : K) (cap : ℕ) : WritesIn W (Proc.get s k cap : Proc S K β ε _) :=
  fun _ => True.intro

theorem attemptGet (s : S) (k : K) (cap : ℕ) :
    WritesIn W (Proc.get s k cap : Proc S K β ε _).attempt := fun _ => True.intro

theorem put {s : S} {k : K} {v : List β} (h : W s k (some v)) :
    WritesIn W (Proc.put s k v : Proc S K β ε Unit) := ⟨h, fun _ => True.intro⟩

theorem remove {s : S} {k : K} (h : W s k none) :
    WritesIn W (Proc.remove s k : Proc S K β ε Bool) := ⟨h, fun _ => True.intro⟩

end WritesIn

section Exec
variable [DecidableEq S] [DecidableEq K] [StoreError ε]

/-- **Frame.** After any run, cut or not, a key holds what it held or a value the program may
write. -/
theorem exec_writesIn {W : S → K → Option (List β) → Prop} {p : Prog S K β ε α}
    (hp : WritesIn W p) :
    ∀ (F : Faults β ε) (σ : Stores S K β) (s : S) (k : K),
      (p.exec F σ).2 s k = σ s k ∨ W s k ((p.exec F σ).2 s k) := by
  -- a key just written holds an allowed value, and is then framed by the rest of the run
  have after : ∀ {σ : Stores S K β} {s₀ : S} {k₀ : K} {v : Option (List β)} {τ : Stores S K β},
      W s₀ k₀ v → (∀ s k, τ s k = (σ.set s₀ k₀ v) s k ∨ W s k (τ s k)) →
        ∀ s k, τ s k = σ s k ∨ W s k (τ s k) := by
    intro σ s₀ k₀ v τ hv h s k
    rcases h s k with h | h
    · by_cases hk : s = s₀ ∧ k = k₀
      · obtain ⟨rfl, rfl⟩ := hk
        rw [Stores.set_self] at h
        exact Or.inr (h ▸ hv)
      · rw [Stores.set_apply, if_neg hk] at h
        exact Or.inl h
    · exact Or.inr h
  induction p with
  | ret a => intro F σ s k; exact Or.inl rfl
  | get s₀ k₀ cap next ih => intro F σ; exact ih _ (hp _) F.tickRead σ
  | put s₀ k₀ v next ih =>
    intro F σ
    simp only [Prog.exec]
    cases F.write 0 with
    | done => exact after hp.1 (ih _ (hp.2 _) _ _)
    | failed e => exact ih _ (hp.2 _) _ _
    | cut => exact fun s k => Or.inl rfl
  | remove s₀ k₀ next ih =>
    intro F σ
    simp only [Prog.exec]
    cases F.write 0 with
    | done => exact after hp.1 (ih _ (hp.2 _) _ _)
    | failed e => exact ih _ (hp.2 _) _ _
    | cut => exact fun s k => Or.inl rfl
  | draw n next ih => intro F σ; exact ih _ (hp _) F.tickDraw σ

/-- A key the program never writes keeps its value. -/
theorem exec_frame {W : S → K → Option (List β) → Prop} {p : Prog S K β ε α}
    (hp : WritesIn W p) {s : S} {k : K} (hk : ∀ v, ¬ W s k v) (F : Faults β ε)
    (σ : Stores S K β) : (p.exec F σ).2 s k = σ s k :=
  (exec_writesIn hp F σ s k).resolve_right (hk _)

/-- The write is allowed. -/
def Write.Allowed (W : S → K → Option (List β) → Prop) : Write S K β → Prop
  | .put s k v => W s k (some v)
  | .remove s k => W s k none

theorem writes_allowed {W : S → K → Option (List β) → Prop} {p : Prog S K β ε α}
    (hp : WritesIn W p) :
    ∀ (F : Faults β ε) (σ : Stores S K β), ∀ w ∈ p.writes F σ, w.Allowed W := by
  induction p with
  | ret a => exact fun F σ w hw => absurd hw List.not_mem_nil
  | get s k cap next ih => exact fun F σ => ih _ (hp _) F.tickRead σ
  | put s k v next ih =>
    intro F σ
    simp only [Prog.writes]
    cases F.write 0 with
    | done =>
      intro w hw
      rcases List.mem_cons.mp hw with rfl | hw
      · exact hp.1
      · exact ih _ (hp.2 _) _ _ w hw
    | failed e => exact ih _ (hp.2 _) _ _
    | cut => exact fun w hw => absurd hw List.not_mem_nil
  | remove s k next ih =>
    intro F σ
    simp only [Prog.writes]
    cases F.write 0 with
    | done =>
      intro w hw
      rcases List.mem_cons.mp hw with rfl | hw
      · exact hp.1
      · exact ih _ (hp.2 _) _ _ w hw
    | failed e => exact ih _ (hp.2 _) _ _
    | cut => exact fun w hw => absurd hw List.not_mem_nil
  | draw n next ih => exact fun F σ => ih _ (hp _) F.tickDraw σ

/-! ### Weakest preconditions under faults -/

/-- Whatever goes wrong, `p` started on `σ` ends in `Q`, or is cut in `C`. -/
def Prog.wp : Prog S K β ε α → (α → Stores S K β → Prop) → (Stores S K β → Prop) →
    Stores S K β → Prop
  | .ret a, Q, _, σ => Q a σ
  | .get s k cap next, Q, C, σ =>
    (∀ e, (next (.error e)).wp Q C σ) ∧ (next (σ.read s k cap)).wp Q C σ
  | .put s k v next, Q, C, σ =>
    C σ ∧ (∀ e, (next (.error e)).wp Q C σ) ∧ (next (.ok ())).wp Q C (σ.set s k (some v))
  | .remove s k next, Q, C, σ =>
    C σ ∧ (∀ e, (next (.error e)).wp Q C σ) ∧
      (next (.ok (σ s k).isSome)).wp Q C (σ.set s k none)
  | .draw _ next, Q, C, σ => ∀ r, (next r).wp Q C σ

/-- **Soundness.** Every execution ends as its weakest precondition says. -/
theorem exec_of_wp {p : Prog S K β ε α} {Q : α → Stores S K β → Prop}
    {C : Stores S K β → Prop} :
    ∀ {σ : Stores S K β}, p.wp Q C σ → ∀ F : Faults β ε,
      (∀ a, (p.exec F σ).1 = some a → Q a (p.exec F σ).2) ∧
      ((p.exec F σ).1 = none → C (p.exec F σ).2) := by
  induction p with
  | ret a =>
    intro σ h F
    refine ⟨fun b hb => ?_, fun hn => by cases hn⟩
    cases hb
    exact h
  | get s k cap next ih =>
    intro σ h F
    simp only [Prog.exec]
    cases F.read 0 with
    | none => exact ih _ h.2 _
    | some e => exact ih _ (h.1 e) _
  | put s k v next ih =>
    intro σ h F
    simp only [Prog.exec]
    cases F.write 0 with
    | done => exact ih _ h.2.2 _
    | failed e => exact ih _ (h.2.1 e) _
    | cut => exact ⟨fun a ha => (Option.some_ne_none a ha.symm).elim, fun _ => h.1⟩
  | remove s k next ih =>
    intro σ h F
    simp only [Prog.exec]
    cases F.write 0 with
    | done => exact ih _ h.2.2 _
    | failed e => exact ih _ (h.2.1 e) _
    | cut => exact ⟨fun a ha => (Option.some_ne_none a ha.symm).elim, fun _ => h.1⟩
  | draw n next ih => intro σ h F; exact ih _ (h _) _

/-- **Completeness.** What holds of every execution is a weakest precondition. -/
theorem wp_of_exec {p : Prog S K β ε α} {Q : α → Stores S K β → Prop} {C : Stores S K β → Prop} :
    ∀ {σ : Stores S K β}, (∀ F : Faults β ε,
      (∀ a, (p.exec F σ).1 = some a → Q a (p.exec F σ).2) ∧
      ((p.exec F σ).1 = none → C (p.exec F σ).2)) → p.wp Q C σ := by
  induction p with
  | ret a => exact fun h => (h ⟨fun _ => none, fun _ => .done, fun _ _ => .error
      (StoreError.bufferTooSmall 0)⟩).1 a rfl
  | get s k cap next ih =>
    intro σ h
    -- the faults that give this read its answer, and then go on as `F` says
    refine ⟨fun e => ih _ fun F => ?_, ih _ fun F => ?_⟩
    · exact h { F with read := fun i => i.casesOn (some e) F.read }
    · exact h { F with read := fun i => i.casesOn none F.read }
  | put s k v next ih =>
    intro σ h
    refine ⟨?_, fun e => ih _ fun F => ?_, ih _ fun F => ?_⟩
    · exact (h ⟨fun _ => none, fun _ => .cut, fun _ _ => .error (StoreError.bufferTooSmall 0)⟩).2
        rfl
    · exact h { F with write := fun i => i.casesOn (.failed e) F.write }
    · exact h { F with write := fun i => i.casesOn .done F.write }
  | remove s k next ih =>
    intro σ h
    refine ⟨?_, fun e => ih _ fun F => ?_, ih _ fun F => ?_⟩
    · exact (h ⟨fun _ => none, fun _ => .cut, fun _ _ => .error (StoreError.bufferTooSmall 0)⟩).2
        rfl
    · exact h { F with write := fun i => i.casesOn (.failed e) F.write }
    · exact h { F with write := fun i => i.casesOn .done F.write }
  | draw n next ih =>
    intro σ h r
    refine ih _ fun F => ?_
    let draws : (i m : ℕ) → Except ε (List.Vector β m) := fun i m =>
      Nat.casesOn i (if hm : n = m then hm ▸ r else F.entropy 0 m) fun i => F.entropy i m
    have hF := h { F with entropy := draws }
    simp only [Prog.exec, draws, dite_true] at hF
    exact hF

theorem wp_bind (p : Prog S K β ε α) (f : α → Prog S K β ε γ) (Q : γ → Stores S K β → Prop)
    (C : Stores S K β → Prop) :
    ∀ σ, (p.bind f).wp Q C σ ↔ p.wp (fun a => (f a).wp Q C) C σ := by
  induction p with
  | ret a => intro σ; exact Iff.rfl
  | get s k cap next ih => intro σ; simp only [Prog.bind, Prog.wp, ih]
  | put s k v next ih => intro σ; simp only [Prog.bind, Prog.wp, ih]
  | remove s k next ih => intro σ; simp only [Prog.bind, Prog.wp, ih]
  | draw n next ih => intro σ; simp only [Prog.bind, Prog.wp, ih]

/-- The rule for a bind that stops at the first error. -/
theorem wp_procBind (p : Proc S K β ε α) (f : α → Proc S K β ε γ)
    (Q : Except ε γ → Stores S K β → Prop) (C : Stores S K β → Prop) (σ : Stores S K β) :
    Prog.wp (p.bind f) Q C σ ↔
      Prog.wp p (fun r τ => (∀ a, r = .ok a → Prog.wp (f a) Q C τ) ∧
        ∀ e, r = .error e → Q (.error e) τ) C σ := by
  unfold Proc at p f
  unfold Proc.bind
  rw [wp_bind]
  refine iff_of_eq (congrArg (fun P => p.wp P C σ) ?_)
  funext r τ
  cases r with
  | ok a => simp
  | error e => simp [Prog.wp]

theorem wp_procBind_any (p : Proc S K β ε α) {f : α → Proc S K β ε γ}
    {Q : Except ε γ → Stores S K β → Prop} (hf : ∀ a τ, Prog.wp (f a) Q (fun _ => True) τ)
    (he : ∀ e τ, Q (.error e) τ) (σ : Stores S K β) :
    Prog.wp (p.bind f) Q (fun _ => True) σ :=
  (wp_procBind p f Q _ σ).mpr (wp_of_exec fun _ =>
    ⟨fun _ _ => ⟨fun a _ => hf a _, fun e _ => he e _⟩, fun _ => True.intro⟩)

theorem wp_attemptGet (s : S) (k : K) (cap : ℕ) {f : Except ε (Option (List β)) → Proc S K β ε γ}
    {Q : Except ε γ → Stores S K β → Prop} {C : Stores S K β → Prop} {σ : Stores S K β}
    (h : ∀ r, Prog.wp (f r) Q C σ) :
    Prog.wp ((Proc.get s k cap : Proc S K β ε _).attempt.bind f) Q C σ := by
  refine (wp_procBind _ f Q C σ).mpr ⟨fun e => ⟨fun r hr => ?_, fun _ hr => by cases hr⟩,
    fun r hr => ?_, fun _ hr => by cases hr⟩
  · cases hr
    exact h _
  · cases hr
    exact h _

/-- A program that only reads leaves the stores as they are. -/
theorem wp_reads {p : Prog S K β ε α} (hp : WritesIn (fun _ _ _ => False) p)
    (σ : Stores S K β) : Prog.wp p (fun _ τ => τ = σ) (fun τ => τ = σ) σ := by
  refine wp_of_exec fun F => ?_
  have hsame : (p.exec F σ).2 = σ := by
    funext s k
    exact exec_frame hp (fun _ => id) F σ
  exact ⟨fun _ _ => hsame, fun _ => hsame⟩

/-- The rule of consequence. -/
theorem wp_mono {p : Prog S K β ε α} {Q Q' : α → Stores S K β → Prop}
    {C C' : Stores S K β → Prop} (hQ : ∀ a σ, Q a σ → Q' a σ) (hC : ∀ σ, C σ → C' σ) :
    ∀ {σ}, p.wp Q C σ → p.wp Q' C' σ := by
  induction p with
  | ret a => intro σ h; exact hQ a σ h
  | get s k cap next ih => intro σ h; exact ⟨fun e => ih _ (h.1 e), ih _ h.2⟩
  | put s k v next ih => intro σ h; exact ⟨hC σ h.1, fun e => ih _ (h.2.1 e), ih _ h.2.2⟩
  | remove s k next ih => intro σ h; exact ⟨hC σ h.1, fun e => ih _ (h.2.1 e), ih _ h.2.2⟩
  | draw n next ih => intro σ h r; exact ih r (h r)

/-- The rule for a bind after a program that only reads. -/
theorem wp_procBind_reads {p : Proc S K β ε α} (hp : WritesIn (fun _ _ _ => False) p)
    {f : α → Proc S K β ε γ} {Q : Except ε γ → Stores S K β → Prop} {C : Stores S K β → Prop}
    {σ : Stores S K β} (hf : ∀ a, Prog.wp (f a) Q C σ) (he : ∀ e, Q (.error e) σ) (hC : C σ) :
    Prog.wp (p.bind f) Q C σ := by
  refine (wp_procBind p f Q C σ).mpr (wp_mono (fun r τ hτ => ?_) (fun τ hτ => ?_) (wp_reads hp σ))
  · rw [hτ]
    exact ⟨fun a _ => hf a, fun e _ => he e⟩
  · rw [hτ]
    exact hC

end Exec

end EspMid.Lib.StoreProg
