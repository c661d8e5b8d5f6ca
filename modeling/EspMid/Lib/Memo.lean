import EspMid.Lib.StoreLogic

/-! # A remembered value

`memo` takes a value from an entry of a store, if `hit` reads one there; otherwise it computes the
value and writes the entry. A failed read is no entry, and a failed write no error. While whatever
the entry recalls is the value (`Faithful`), the program returns the value, whatever goes wrong
(`memo_value`); the store keeps the old entry or holds the new one (`memo_stores`), and the new one
if the old recalls nothing and the write is done (`memo_replaces`). -/

namespace EspMid.Lib.StoreProg

variable {S K β ε α γ : Type}

/-- Take the value from the entry, or compute it and write the entry. -/
def memo (s : S) (k : K) (cap : ℕ) (hit : List β → Option α) (value : α) (entry : List β) :
    Prog S K β ε α :=
  .get s k cap fun r =>
    match r with
    | .ok (some e) =>
      match hit e with
      | some a => .ret a
      | none => .put s k entry fun _ => .ret value
    | _ => .put s k entry fun _ => .ret value

theorem writesIn_memo {W : S → K → Option (List β) → Prop} {s : S} {k : K} {entry : List β}
    (h : W s k (some entry)) (cap : ℕ) (hit : List β → Option α) (value : α) :
    WritesIn W (memo s k cap hit value entry : Prog S K β ε α) := by
  have hput : WritesIn W (Prog.put s k entry fun _ => .ret value : Prog S K β ε α) :=
    ⟨h, fun _ => True.intro⟩
  intro r
  rcases r with _ | _ | e
  · exact hput
  · exact hput
  · simp only
    cases hit e with
    | none => exact hput
    | some a => exact True.intro

/-- Whatever the entry recalls is the value. -/
def Faithful (hit : List β → Option α) (value : α) (entry : Option (List β)) : Prop :=
  ∀ e ∈ entry, ∀ a ∈ hit e, a = value

section Exec
variable [DecidableEq S] [DecidableEq K] [StoreError ε]

/-! ### Runs of `memo` -/

variable {s : S} {k : K} {cap : ℕ} {hit : List β → Option α} {value : α} {entry : List β}
  {F : Faults β ε} {σ : Stores S K β}

/-- What the run's first read answers. -/
def Stores.answer (σ : Stores S K β) (F : Faults β ε) (s : S) (k : K) (cap : ℕ) :
    Except ε (Option (List β)) :=
  match F.read 0 with
  | some e => .error e
  | none => σ.read s k cap

omit [DecidableEq S] [DecidableEq K] in
theorem Stores.answer_eq_ok {o : Option (List β)} (h : σ.answer F s k cap = .ok o) :
    σ s k = o := by
  unfold Stores.answer at h
  split at h
  · cases h
  · exact (Stores.read_eq_ok.mp h).1

theorem exec_get (next : Except ε (Option (List β)) → Prog S K β ε α) :
    (Prog.get s k cap next).exec F σ = (next (σ.answer F s k cap)).exec F.tickRead σ := rfl

/-- What the run recalls, if the entry can be read. -/
def recalled (s : S) (k : K) (cap : ℕ) (hit : List β → Option α) (F : Faults β ε)
    (σ : Stores S K β) : Option α :=
  match σ.answer F s k cap with
  | .ok (some e) => hit e
  | _ => none

omit [DecidableEq S] [DecidableEq K] in
theorem recalled_eq_some {a : α} (h : recalled s k cap hit F σ = some a) :
    ∃ e, σ s k = some e ∧ hit e = some a := by
  unfold recalled at h
  split at h
  · next e hread => exact ⟨e, Stores.answer_eq_ok hread, h⟩
  · cases h

theorem exec_memo :
    (memo s k cap hit value entry : Prog S K β ε α).exec F σ =
      match recalled s k cap hit F σ with
      | some a => (some a, σ)
      | none =>
        match F.write 0 with
        | .done => (some value, σ.set s k (some entry))
        | .failed _ => (some value, σ)
        | .cut => (none, σ) := by
  have hput : ∀ G : Faults β ε, G.write 0 = F.write 0 →
      (Prog.put s k entry fun _ => .ret value : Prog S K β ε α).exec G σ =
        match F.write 0 with
        | .done => (some value, σ.set s k (some entry))
        | .failed _ => (some value, σ)
        | .cut => (none, σ) := by
    intro G hG
    simp only [Prog.exec, hG]
    cases F.write 0 <;> rfl
  unfold memo recalled
  rw [exec_get]
  rcases σ.answer F s k cap with e | _ | e
  · exact hput F.tickRead rfl
  · exact hput F.tickRead rfl
  · simp only
    cases hit e with
    | none => exact hput F.tickRead rfl
    | some a => rfl

/-- **The value is returned**, unless the power is cut. -/
theorem memo_value (h : Faithful hit value (σ s k)) :
    ((memo s k cap hit value entry : Prog S K β ε α).exec F σ).1 = some value ∨
      F.write 0 = .cut ∧
        ((memo s k cap hit value entry : Prog S K β ε α).exec F σ).1 = none := by
  rw [exec_memo]
  cases hr : recalled s k cap hit F σ with
  | some a =>
    obtain ⟨e, he, ha⟩ := recalled_eq_some hr
    exact Or.inl (congrArg some (h e he a ha))
  | none =>
    cases F.write 0 with
    | done => exact Or.inl rfl
    | failed e => exact Or.inl rfl
    | cut => exact Or.inr ⟨rfl, rfl⟩

theorem memo_stores :
    ((memo s k cap hit value entry : Prog S K β ε α).exec F σ).2 = σ ∨
      ((memo s k cap hit value entry : Prog S K β ε α).exec F σ).2 =
        σ.set s k (some entry) := by
  rw [exec_memo]
  cases recalled s k cap hit F σ with
  | some a => exact Or.inl rfl
  | none =>
    cases F.write 0 with
    | done => exact Or.inr rfl
    | failed e => exact Or.inl rfl
    | cut => exact Or.inl rfl

theorem memo_replaces (h : ∀ e ∈ σ s k, hit e = none) (hw : F.write 0 = .done) :
    ((memo s k cap hit value entry : Prog S K β ε α).exec F σ).2 = σ.set s k (some entry) := by
  rw [exec_memo]
  cases hr : recalled s k cap hit F σ with
  | some a =>
    obtain ⟨e, he, ha⟩ := recalled_eq_some hr
    rw [h e he] at ha
    cases ha
  | none => simp only [hw]

end Exec

end EspMid.Lib.StoreProg
