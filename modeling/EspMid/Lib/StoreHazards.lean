import EspMid.Lib.StoreLogic

/-! # Programs under limited faults

`Hazards` say what may go wrong in a run: the errors a read and a write may end in, whether the
power may be cut, and what a draw may answer. `under H Q C` is the weakest precondition of a program
whose faults stay within `H`: it ends in `Q`, or is cut in `C` (`exec_of_under`). It composes along
both binds. -/

namespace EspMid.Lib.StoreProg

variable {S K β ε α γ : Type}

/-- What may go wrong. -/
structure Hazards (β ε : Type) where
  read : ε → Prop
  write : ε → Prop
  cut : Prop
  draw : (n : ℕ) → Except ε (List.Vector β n) → Prop

/-- Nothing goes wrong that may not. -/
structure Faults.Within (F : Faults β ε) (H : Hazards β ε) : Prop where
  read : ∀ i e, F.read i = some e → H.read e
  write : ∀ i e, F.write i = .failed e → H.write e
  cut : ∀ i, F.write i = .cut → H.cut
  draw : ∀ i n, H.draw n (F.entropy i n)

namespace Faults.Within

variable {F : Faults β ε} {H : Hazards β ε}

theorem tickRead (h : F.Within H) : F.tickRead.Within H :=
  ⟨fun i => h.read (i + 1), h.write, h.cut, h.draw⟩

theorem tickWrite (h : F.Within H) : F.tickWrite.Within H :=
  ⟨h.read, fun i => h.write (i + 1), fun i => h.cut (i + 1), h.draw⟩

theorem tickDraw (h : F.Within H) : F.tickDraw.Within H :=
  ⟨h.read, h.write, h.cut, fun i => h.draw (i + 1)⟩

end Faults.Within

section Under
variable [DecidableEq S] [DecidableEq K] [StoreError ε]

/-- With faults within `H`, `p` started on `σ` ends in `Q`, or is cut in `C`. -/
def Prog.under (H : Hazards β ε) : Prog S K β ε α → (α → Stores S K β → Prop) →
    (Stores S K β → Prop) → Stores S K β → Prop
  | .ret a, Q, _, σ => Q a σ
  | .get s k cap next, Q, C, σ =>
    (∀ e, H.read e → (next (.error e)).under H Q C σ) ∧ (next (σ.read s k cap)).under H Q C σ
  | .put s k v next, Q, C, σ =>
    (H.cut → C σ) ∧ (∀ e, H.write e → (next (.error e)).under H Q C σ) ∧
      (next (.ok ())).under H Q C (σ.set s k (some v))
  | .remove s k next, Q, C, σ =>
    (H.cut → C σ) ∧ (∀ e, H.write e → (next (.error e)).under H Q C σ) ∧
      (next (.ok (σ s k).isSome)).under H Q C (σ.set s k none)
  | .draw n next, Q, C, σ => ∀ r, H.draw n r → (next r).under H Q C σ

variable {H : Hazards β ε}

/-- **Soundness.** -/
theorem exec_of_under {p : Prog S K β ε α} {Q : α → Stores S K β → Prop}
    {C : Stores S K β → Prop} :
    ∀ {σ : Stores S K β}, p.under H Q C σ → ∀ F : Faults β ε, F.Within H →
      (∀ a, (p.exec F σ).1 = some a → Q a (p.exec F σ).2) ∧
      ((p.exec F σ).1 = none → C (p.exec F σ).2) := by
  induction p with
  | ret a =>
    intro σ h F _
    refine ⟨fun b hb => ?_, fun hn => by cases hn⟩
    cases hb
    exact h
  | get s k cap next ih =>
    intro σ h F hF
    simp only [Prog.exec]
    cases hr : F.read 0 with
    | none => exact ih _ h.2 _ hF.tickRead
    | some e => exact ih _ (h.1 e (hF.read 0 e hr)) _ hF.tickRead
  | put s k v next ih =>
    intro σ h F hF
    simp only [Prog.exec]
    cases hw : F.write 0 with
    | done => exact ih _ h.2.2 _ hF.tickWrite
    | failed e => exact ih _ (h.2.1 e (hF.write 0 e hw)) _ hF.tickWrite
    | cut => exact ⟨fun a ha => (Option.some_ne_none a ha.symm).elim, fun _ => h.1 (hF.cut 0 hw)⟩
  | remove s k next ih =>
    intro σ h F hF
    simp only [Prog.exec]
    cases hw : F.write 0 with
    | done => exact ih _ h.2.2 _ hF.tickWrite
    | failed e => exact ih _ (h.2.1 e (hF.write 0 e hw)) _ hF.tickWrite
    | cut => exact ⟨fun a ha => (Option.some_ne_none a ha.symm).elim, fun _ => h.1 (hF.cut 0 hw)⟩
  | draw n next ih => intro σ h F hF; exact ih _ (h _ (hF.draw 0 n)) _ hF.tickDraw

theorem exec_ne_none (p : Prog S K β ε α) :
    ∀ (F : Faults β ε) (σ : Stores S K β), (∀ i, F.write i ≠ .cut) → (p.exec F σ).1 ≠ none := by
  induction p with
  | ret a => exact fun F σ _ => Option.some_ne_none a
  | get s k cap next ih => exact fun F σ hF => ih _ F.tickRead σ hF
  | put s k v next ih =>
    intro F σ hF
    simp only [Prog.exec]
    cases hw : F.write 0 with
    | done => exact ih _ F.tickWrite _ fun i => hF (i + 1)
    | failed e => exact ih _ F.tickWrite _ fun i => hF (i + 1)
    | cut => exact absurd hw (hF 0)
  | remove s k next ih =>
    intro F σ hF
    simp only [Prog.exec]
    cases hw : F.write 0 with
    | done => exact ih _ F.tickWrite _ fun i => hF (i + 1)
    | failed e => exact ih _ F.tickWrite _ fun i => hF (i + 1)
    | cut => exact absurd hw (hF 0)
  | draw n next ih => exact fun F σ hF => ih _ F.tickDraw σ hF

/-- The rule of consequence. -/
theorem under_mono {p : Prog S K β ε α} {Q Q' : α → Stores S K β → Prop}
    {C C' : Stores S K β → Prop} (hQ : ∀ a σ, Q a σ → Q' a σ) (hC : ∀ σ, C σ → C' σ) :
    ∀ {σ}, p.under H Q C σ → p.under H Q' C' σ := by
  induction p with
  | ret a => intro σ h; exact hQ a σ h
  | get s k cap next ih => intro σ h; exact ⟨fun e he => ih _ (h.1 e he), ih _ h.2⟩
  | put s k v next ih =>
    intro σ h
    exact ⟨fun hc => hC σ (h.1 hc), fun e he => ih _ (h.2.1 e he), ih _ h.2.2⟩
  | remove s k next ih =>
    intro σ h
    exact ⟨fun hc => hC σ (h.1 hc), fun e he => ih _ (h.2.1 e he), ih _ h.2.2⟩
  | draw n next ih => intro σ h r hr; exact ih r (h r hr)

theorem under_bind (p : Prog S K β ε α) (f : α → Prog S K β ε γ) (Q : γ → Stores S K β → Prop)
    (C : Stores S K β → Prop) :
    ∀ σ, (p.bind f).under H Q C σ ↔ p.under H (fun a => (f a).under H Q C) C σ := by
  induction p with
  | ret a => intro σ; exact Iff.rfl
  | get s k cap next ih => intro σ; simp only [Prog.bind, Prog.under, ih]
  | put s k v next ih => intro σ; simp only [Prog.bind, Prog.under, ih]
  | remove s k next ih => intro σ; simp only [Prog.bind, Prog.under, ih]
  | draw n next ih => intro σ; simp only [Prog.bind, Prog.under, ih]

/-- The rule for a bind that stops at the first error. -/
theorem under_procBind (p : Proc S K β ε α) (f : α → Proc S K β ε γ)
    (Q : Except ε γ → Stores S K β → Prop) (C : Stores S K β → Prop) (σ : Stores S K β) :
    Prog.under H (p.bind f) Q C σ ↔
      Prog.under H p (fun r τ => (∀ a, r = .ok a → Prog.under H (f a) Q C τ) ∧
        ∀ e, r = .error e → Q (.error e) τ) C σ := by
  unfold Proc at p f
  unfold Proc.bind
  rw [under_bind]
  refine iff_of_eq (congrArg (fun P => p.under H P C σ) ?_)
  funext r τ
  cases r with
  | ok a => simp
  | error e => simp [Prog.under]

end Under

end EspMid.Lib.StoreProg
