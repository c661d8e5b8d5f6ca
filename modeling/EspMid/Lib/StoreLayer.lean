import EspMid.Lib.StoreLogic
import EspMid.Lib.StoreRun

/-! # Stores built over stores

A `Layer` says how each operation on a store is carried out by a program on the stores below;
`over` carries out a whole program so. A layer refines plain stores where each operation answers as
the plain one does and keeps the relation between what lies below and what it stands for
(`Layer.Refines`). Then so does every program whose writes the layer takes (`over_ensures`), and one
whose writes it does not all take stops at the first it refuses (`over_refused`).

`ensures` is what a program does with every read and write done, whatever is drawn. -/

namespace EspMid.Lib.StoreProg

variable {S K β ε α γ : Type}

/-- Every read and write is done. -/
structure Faults.Steady (F : Faults β ε) : Prop where
  reads : F.ReadsDone
  writes : ∀ i, F.write i = .done

theorem Faults.Steady.tickRead {F : Faults β ε} (h : F.Steady) : F.tickRead.Steady :=
  ⟨fun i => h.reads (i + 1), h.writes⟩

theorem Faults.Steady.tickWrite {F : Faults β ε} (h : F.Steady) : F.tickWrite.Steady :=
  ⟨h.reads, fun i => h.writes (i + 1)⟩

theorem Faults.Steady.tickDraw {F : Faults β ε} (h : F.Steady) : F.tickDraw.Steady :=
  ⟨h.reads, h.writes⟩

section Ensures
variable [DecidableEq S] [DecidableEq K] [StoreError ε]
  {D : (n : ℕ) → Except ε (List.Vector β n) → Prop}

/-! ### What a program does when reads and writes are done -/

/-- With every read and write done, and draws that answer in `D`, the program ends in `Q`. -/
def Prog.ensures (D : (n : ℕ) → Except ε (List.Vector β n) → Prop) :
    Prog S K β ε α → (α → Stores S K β → Prop) → Stores S K β → Prop
  | .ret a, Q, σ => Q a σ
  | .get s k cap next, Q, σ => (next (σ.read s k cap)).ensures D Q σ
  | .put s k v next, Q, σ => (next (.ok ())).ensures D Q (σ.set s k (some v))
  | .remove s k next, Q, σ => (next (.ok (σ s k).isSome)).ensures D Q (σ.set s k none)
  | .draw n next, Q, σ => ∀ r, D n r → (next r).ensures D Q σ

/-- **Soundness.** -/
theorem exec_of_ensures {p : Prog S K β ε α} {Q : α → Stores S K β → Prop} :
    ∀ {σ : Stores S K β}, p.ensures D Q σ → ∀ F : Faults β ε, F.Steady →
      (∀ i n, D n (F.entropy i n)) →
        ∃ a, (p.exec F σ).1 = some a ∧ Q a (p.exec F σ).2 := by
  induction p with
  | ret a => exact fun h F _ _ => ⟨a, rfl, h⟩
  | get s k cap next ih =>
    intro σ h F hF hD
    simp only [Prog.exec, hF.reads 0]
    exact ih _ h _ hF.tickRead hD
  | put s k v next ih =>
    intro σ h F hF hD
    simp only [Prog.exec, hF.writes 0]
    exact ih _ h _ hF.tickWrite hD
  | remove s k next ih =>
    intro σ h F hF hD
    simp only [Prog.exec, hF.writes 0]
    exact ih _ h _ hF.tickWrite hD
  | draw n next ih =>
    intro σ h F hF hD
    simp only [Prog.exec]
    exact ih _ (h _ (hD 0 n)) _ hF.tickDraw fun i => hD (i + 1)

theorem ensures_mono {p : Prog S K β ε α} {Q Q' : α → Stores S K β → Prop}
    (hQ : ∀ a σ, Q a σ → Q' a σ) : ∀ {σ}, p.ensures D Q σ → p.ensures D Q' σ := by
  induction p with
  | ret a => exact fun h => hQ a _ h
  | get s k cap next ih => exact fun h => ih _ h
  | put s k v next ih => exact fun h => ih _ h
  | remove s k next ih => exact fun h => ih _ h
  | draw n next ih => exact fun h r hr => ih r (h r hr)

theorem ensures_bind (p : Prog S K β ε α) (f : α → Prog S K β ε γ)
    (Q : γ → Stores S K β → Prop) :
    ∀ σ, (p.bind f).ensures D Q σ ↔ p.ensures D (fun a => (f a).ensures D Q) σ := by
  induction p with
  | ret a => exact fun σ => Iff.rfl
  | get s k cap next ih => exact fun σ => ih _ _
  | put s k v next ih => exact fun σ => ih _ _
  | remove s k next ih => exact fun σ => ih _ _
  | draw n next ih => exact fun σ => forall_congr' fun r => imp_congr_right fun _ => ih r σ

/-- The rule for a bind that stops at the first error. -/
theorem ensures_procBind (p : Proc S K β ε α) (f : α → Proc S K β ε γ)
    (Q : Except ε γ → Stores S K β → Prop) (σ : Stores S K β) :
    Prog.ensures D (p.bind f) Q σ ↔
      Prog.ensures D p (fun r τ => (∀ a, r = .ok a → Prog.ensures D (f a) Q τ) ∧
        ∀ e, r = .error e → Q (.error e) τ) σ := by
  unfold Proc at p f
  unfold Proc.bind
  rw [ensures_bind]
  refine iff_of_eq (congrArg (fun P => p.ensures D P σ) ?_)
  funext r τ
  cases r with
  | ok a => simp
  | error e => simp [Prog.ensures]

/-- A program that draws nothing then runs as if nothing could go wrong. -/
theorem exec_steady [Inhabited β] {p : Prog S K β ε α} (hp : Drawless p) {F : Faults β ε}
    (hF : F.Steady) (σ : Stores S K β) :
    p.exec F σ = (some (p.run σ).1, (p.run σ).2) := by
  have hdone : F.writesDone = F := by
    have hwrite : F.write = fun _ => .done := funext hF.writes
    unfold Faults.writesDone
    rw [← hwrite]
  have hexec := (exec_writesDone hp F σ hF.reads).1
  rwa [hdone] at hexec

end Ensures

/-! ### Layers -/

/-- How the operations on stores are carried out on the stores below. -/
structure Layer (S K β ε : Type) where
  get (s : S) (k : K) (cap : ℕ) : Proc S K β ε (Option (List β))
  put (s : S) (k : K) (v : List β) : Proc S K β ε Unit
  remove (s : S) (k : K) : Proc S K β ε Bool

/-- The program, its operations carried out by the layer. -/
def Prog.over (L : Layer S K β ε) : Prog S K β ε α → Prog S K β ε α
  | .ret a => .ret a
  | .get s k cap next => Prog.bind (L.get s k cap) fun r => (next r).over L
  | .put s k v next => Prog.bind (L.put s k v) fun r => (next r).over L
  | .remove s k next => Prog.bind (L.remove s k) fun r => (next r).over L
  | .draw n next => .draw n fun r => (next r).over L

/-- A fallible program, its operations carried out by the layer. -/
def Proc.over (L : Layer S K β ε) (p : Proc S K β ε α) : Proc S K β ε α := Prog.over L p

section Refines
variable [DecidableEq S] [DecidableEq K] [StoreError ε] [Inhabited β]
  {D : (n : ℕ) → Except ε (List.Vector β n) → Prop}
  {R : Stores S K β → Stores S K β → Prop} {P : Write S K β → Prop} {L : Layer S K β ε}

/-- Where `R` relates what lies below to the plain stores it stands for, every operation answers as
the plain one does and keeps `R`, as long as `P` holds of what is written. -/
structure Layer.Refines (L : Layer S K β ε) (D : (n : ℕ) → Except ε (List.Vector β n) → Prop)
    (R : Stores S K β → Stores S K β → Prop) (P : Write S K β → Prop) : Prop where
  get : ∀ {τ σ}, R τ σ → ∀ s k cap,
    Prog.ensures D (L.get s k cap) (fun r τ' => r = σ.read s k cap ∧ R τ' σ) τ
  put : ∀ {τ σ}, R τ σ → ∀ s k v, P (.put s k v) →
    Prog.ensures D (L.put s k v) (fun r τ' => r = .ok () ∧ R τ' (σ.set s k (some v))) τ
  remove : ∀ {τ σ}, R τ σ → ∀ s k, P (.remove s k) →
    Prog.ensures D (L.remove s k) (fun r τ' => r = .ok (σ s k).isSome ∧ R τ' (σ.set s k none)) τ

/-- **Programs over a layer.** A program whose writes the layer takes ends as it does on the plain
stores. -/
theorem over_ensures (hL : L.Refines D R P) {p : Prog S K β ε α} (hp : Drawless p) :
    ∀ {τ σ : Stores S K β}, R τ σ → (∀ w ∈ p.runWrites σ, P w) →
      (p.over L).ensures D (fun a τ' => a = (p.run σ).1 ∧ R τ' (p.run σ).2) τ := by
  induction p with
  | ret a => exact fun hR _ => ⟨rfl, hR⟩
  | get s k cap next ih =>
    intro τ σ hR hw
    refine (ensures_bind _ _ _ τ).mpr (ensures_mono ?_ (hL.get hR s k cap))
    rintro r τ' ⟨rfl, hR'⟩
    exact ih _ (hp _) hR' hw
  | put s k v next ih =>
    intro τ σ hR hw
    refine (ensures_bind _ _ _ τ).mpr
      (ensures_mono ?_ (hL.put hR s k v (hw _ List.mem_cons_self)))
    rintro r τ' ⟨rfl, hR'⟩
    exact ih _ (hp _) hR' fun w h => hw w (List.mem_cons_of_mem _ h)
  | remove s k next ih =>
    intro τ σ hR hw
    refine (ensures_bind _ _ _ τ).mpr
      (ensures_mono ?_ (hL.remove hR s k (hw _ List.mem_cons_self)))
    rintro r τ' ⟨rfl, hR'⟩
    exact ih _ (hp _) hR' fun w h => hw w (List.mem_cons_of_mem _ h)
  | draw n next ih => exact hp.elim

/-- A program that only reads is carried out over any layer. -/
theorem over_reads (hL : L.Refines D R P) {p : Prog S K β ε α} (hp : Drawless p)
    (hreads : WritesIn (fun _ _ _ => False) p) {τ σ : Stores S K β} (hR : R τ σ) :
    (p.over L).ensures D (fun a τ' => a = (p.run σ).1 ∧ R τ' σ) τ := by
  have hnone : p.runWrites σ = [] := by
    have hallowed := writes_allowed hreads Faults.calm σ
    rw [writes_calm] at hallowed
    refine List.eq_nil_iff_forall_not_mem.mpr fun w hw => ?_
    cases w with
    | put s k v => exact hallowed _ hw
    | remove s k => exact hallowed _ hw
  have hsame : (p.run σ).2 = σ := by rw [run_stores, hnone, applyAll_nil]
  have hover := over_ensures hL hp hR fun w hw => absurd hw (hnone ▸ List.not_mem_nil)
  rwa [hsame] at hover

/-- **A refused write.** A program that stops at the first write that fails stops at the one the
layer refuses, the writes before it made. -/
theorem over_refused (hL : L.Refines D R P) {p : Prog S K β ε (Except ε α)} (hf : FailStop p)
    (hd : Drawless p) {s₀ : S} {k₀ : K} {v₀ : List β} {e : ε}
    (hrefused : ∀ {τ σ}, R τ σ →
      Prog.ensures D (L.put s₀ k₀ v₀) (fun r τ' => r = .error e ∧ R τ' σ) τ) :
    ∀ {τ σ : Stores S K β} {ws rest : List (Write S K β)}, R τ σ →
      p.runWrites σ = ws ++ .put s₀ k₀ v₀ :: rest → (∀ w ∈ ws, P w) →
        (p.over L).ensures D (fun r τ' => r = .error e ∧ R τ' (applyAll ws σ)) τ := by
  induction p with
  | ret r =>
    intro τ σ ws rest _ hw _
    exact absurd hw.symm (List.append_ne_nil_of_right_ne_nil _ (List.cons_ne_nil _ _))
  | get s k cap next ih =>
    intro τ σ ws rest hR hw hP
    refine (ensures_bind _ _ _ τ).mpr (ensures_mono ?_ (hL.get hR s k cap))
    rintro r τ' ⟨rfl, hR'⟩
    exact ih _ (hf _) (hd _) hR' hw hP
  | put s k v next ih =>
    intro τ σ ws rest hR hw hP
    obtain ⟨herr, hok⟩ := hf
    cases ws with
    | nil =>
      obtain ⟨hput, -⟩ := List.cons_eq_cons.mp hw
      cases hput
      refine (ensures_bind _ _ _ τ).mpr (ensures_mono ?_ (hrefused hR))
      rintro r τ' ⟨rfl, hR'⟩
      rw [herr]
      exact ⟨rfl, hR'⟩
    | cons w ws =>
      obtain ⟨rfl, hrest⟩ := List.cons_eq_cons.mp hw
      refine (ensures_bind _ _ _ τ).mpr
        (ensures_mono ?_ (hL.put hR s k v (hP _ List.mem_cons_self)))
      rintro r τ' ⟨rfl, hR'⟩
      have hnext := ih _ hok (hd _) hR' hrest fun w h => hP w (List.mem_cons_of_mem _ h)
      exact hnext
  | remove s k next ih =>
    intro τ σ ws rest hR hw hP
    obtain ⟨-, hok⟩ := hf
    cases ws with
    | nil =>
      obtain ⟨hput, -⟩ := List.cons_eq_cons.mp hw
      cases hput
    | cons w ws =>
      obtain ⟨rfl, hrest⟩ := List.cons_eq_cons.mp hw
      refine (ensures_bind _ _ _ τ).mpr
        (ensures_mono ?_ (hL.remove hR s k (hP _ List.mem_cons_self)))
      rintro r τ' ⟨rfl, hR'⟩
      have hnext := ih _ (hok _) (hd _) hR' hrest fun w h => hP w (List.mem_cons_of_mem _ h)
      exact hnext
  | draw n next ih => exact hd.elim

end Refines

end EspMid.Lib.StoreProg
