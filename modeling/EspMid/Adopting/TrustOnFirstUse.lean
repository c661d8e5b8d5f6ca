import EspMid.Adopting.Holding

/-! # Trust on first use

A run of a device that is never given away: v1 envelopes checked against the stored pin, and boots
that take the settings' adoption, cut anywhere. Both paths accept only what follows the stored pin,
so what the device holds is a `Pinning.History`: the owner never changes, the roster version never
decreases, and whatever is accepted is no older than all that was accepted before. -/

namespace EspMid.Adopting.TrustOnFirstUse

open EspMid.Lib EspMid.Lib.StoreProg EspMid.Lib.Runs EspMid.Lib.Pinning
open EspMid.Model.Core EspMid.Model.Identity EspMid.Model.Envelope EspMid.Model.SettingsAdoption
open EspMid.Adopting.Plan EspMid.Adopting.Presented EspMid.Adopting.Holding

variable {X : Crates} {myDid : String} {σ : Device}

/-! ### Steps -/

/-- A v1 envelope in arbitrary bytes: checked against the stored pin, and its pin stored. -/
def takeEnvelope (X : Crates) (myDid : String) (bytes : Bytes) (now : Option UInt64) :
    Kv Partition OwnerPin := do
  let a ← Proc.ofExcept (Adoption.decode bytes)
  let pinned ← storedPin
  let pin ← Proc.ofExcept (a.accept X myDid pinned now)
  let (encoded, out) := pin.encode (List.replicate OwnerPin.LEN 0)
  let _ ← Proc.ofExcept encoded
  Proc.put .identity KV_OWNER_PIN out
  return pin

/-- A step of the device: an envelope arrives, or it boots with some settings and may be cut. -/
inductive Step where
  | envelope (bytes : Bytes) (now : Option UInt64)
  | boot (settings : String → Option Bytes) (faults : KvFaults) (cut : faults.OnlyCut)

/-- The device after a step. -/
def Step.effect (X : Crates) (myDid : String) : Step → Device → Device
  | .envelope bytes now, σ => ((takeEnvelope X myDid bytes now).run σ).2
  | .boot settings F _, σ => (Prog.exec (apply X myDid) F (withSettings settings σ)).2

/-- The step refuses: the envelope with an error, the boot with an outcome that is not one of
taking. -/
def Step.Refuses (X : Crates) (myDid : String) : Step → Device → Prop
  | .envelope bytes now, σ => ∃ e, ((takeEnvelope X myDid bytes now).run σ).1 = .error e
  | .boot settings F _, σ =>
    ∃ r, (Prog.exec (apply X myDid) F (withSettings settings σ)).1 = some r ∧
      ∀ o, r = .ok o → ∀ owner roster provisional, ¬ Taking o owner roster provisional

/-- The step accepts an adoption with the pin, and stores it. -/
def Step.Accepts (X : Crates) (myDid : String) : Step → Device → OwnerPin → Prop
  | .envelope bytes now, σ, pin => ((takeEnvelope X myDid bytes now).run σ).1 = .ok pin
  | .boot settings F cut, σ, pin =>
    (∃ container checked pinned, Takes X myDid (withSettings settings σ) container checked pinned ∧
      checked.pin = pin) ∧
      (Step.boot settings F cut).effect X myDid σ .identity KV_OWNER_PIN = some (pinBytes pin)

theorem boot_effect (settings : String → Option Bytes) (F : KvFaults) (cut : F.OnlyCut)
    (σ : Device) :
    (Step.boot settings F cut).effect X myDid σ =
      Call.effect X myDid ⟨.apply, settings, F, cut.1⟩ σ := rfl

/-- The device after several steps. -/
def afterSteps (X : Crates) (myDid : String) (steps : List Step) (σ : Device) : Device :=
  steps.foldl (fun τ s => s.effect X myDid τ) σ

/-! ### What a step does -/

theorem run_takeEnvelope (X : Crates) (myDid : String) (bytes : Bytes) (now : Option UInt64)
    (σ : Device) :
    (∃ a pinned pin, Adoption.decode bytes = .ok a ∧ pinIn σ = .ok pinned ∧
        Accepts X a myDid pinned now pin ∧
        (takeEnvelope X myDid bytes now).run σ =
          (.ok pin, σ.set .identity KV_OWNER_PIN (some (pinBytes pin)))) ∨
      ∃ e, (takeEnvelope X myDid bytes now).run σ = (.error e, σ) := by
  unfold takeEnvelope
  simp only [Proc.run_bind, Proc.run_ofExcept, run_storedPin]
  cases hdecode : Adoption.decode bytes with
  | error e => exact Or.inr ⟨e, rfl⟩
  | ok a =>
    simp only
    cases hpin : pinIn σ with
    | error e => exact Or.inr ⟨e, rfl⟩
    | ok pinned =>
      simp only
      cases haccept : a.accept X myDid pinned now with
      | error e => exact Or.inr ⟨e, rfl⟩
      | ok pin =>
        refine Or.inl ⟨a, pinned, pin, rfl, rfl, accept_eq_ok.mp haccept, ?_⟩
        simp only [encode_pin]
        rfl

/-- **Step.** The pin stays well formed, and what is held next follows what is held. -/
theorem next_effect (h : WellPinned σ) (s : Step) :
    WellPinned (s.effect X myDid σ) ∧ Next (held σ) (held (s.effect X myDid σ)) := by
  cases s with
  | envelope bytes now =>
    simp only [Step.effect]
    rcases run_takeEnvelope X myDid bytes now σ with
      ⟨a, pinned, pin, -, hpinned, hacc, hrun⟩ | ⟨e, hrun⟩
    · rw [hrun]
      have hpin : σ.set .identity KV_OWNER_PIN (some (pinBytes pin)) .identity KV_OWNER_PIN =
          some (pinBytes pin) := Stores.set_self _ _ _ _
      exact ⟨Or.inr ⟨pin, hpin⟩, Or.inr ⟨asPin pin, hacc.follows_held hpinned, held_of_some hpin⟩⟩
    · rw [hrun]
      exact ⟨h, Or.inl rfl⟩
  | boot settings F cut =>
    rw [boot_effect]
    refine ⟨wellPinned_effect h, ?_⟩
    rcases pin_effect X myDid ⟨.apply, settings, F, cut.1⟩ σ with
      hsame | ⟨container, checked, ⟨-, pinned, ht⟩, hpin⟩ | ⟨hop, -⟩
    · exact Or.inl (held_congr hsame)
    · have hfollows := Takes.follows_held ht
      rw [held_withSettings] at hfollows
      exact Or.inr ⟨asPin checked.pin, hfollows, held_of_some hpin⟩
    · cases hop

/-- A step that refuses leaves the stored pin. -/
theorem pin_of_refuses {s : Step} (h : s.Refuses X myDid σ) :
    s.effect X myDid σ .identity KV_OWNER_PIN = σ .identity KV_OWNER_PIN := by
  cases s with
  | envelope bytes now =>
    obtain ⟨e, he⟩ := h
    simp only [Step.effect]
    rcases run_takeEnvelope X myDid bytes now σ with ⟨a, pinned, pin, -, -, -, hrun⟩ | ⟨e, hrun⟩
    · rw [hrun] at he
      cases he
    · rw [hrun]
  | boot settings F cut =>
    obtain ⟨r, hr, hnot⟩ := h
    have hexec : Prog.exec (apply X myDid) F (withSettings settings σ) = _ :=
      exec_of_onlyCut (orderly_apply X myDid).drawless F _ r cut hr
    rw [hexec] at hr
    have hrun : ((apply X myDid).run (withSettings settings σ)).1 = r := Option.some.inj hr
    have hstores := Proc.run_stores (apply X myDid) (withSettings settings σ)
    have heffect : (Step.boot settings F cut).effect X myDid σ =
        applyAll ((apply X myDid).runWrites (withSettings settings σ)) (withSettings settings σ) :=
      (congrArg Prod.snd hexec).trans hstores
    rw [heffect]
    rcases apply_cases X myDid (withSettings settings σ) with
      ⟨container, checked, pinned, ht⟩ | ⟨why, hw, -⟩ | ⟨hw, -⟩
    · -- an adoption that is taken is not refused
      have htook := (run_apply_takes ht).2
      rw [hrun] at htook
      refine absurd ?_ (hnot _ htook checked.ownerDid checked.pin.rosterVersion true)
      unfold Taking took
      split_ifs
      · exact Or.inr rfl
      · exact Or.inl rfl
    · rw [hw]
      exact clear_state 1 (withSettings settings σ) KV_OWNER_PIN
    · rw [hw]
      rfl

/-- A step that accepts an adoption holds its pin, which follows what was held. -/
theorem held_of_accepts {s : Step} {pin : OwnerPin} (h : s.Accepts X myDid σ pin) :
    s.effect X myDid σ .identity KV_OWNER_PIN = some (pinBytes pin) ∧ held σ ≤ asPin pin := by
  cases s with
  | envelope bytes now =>
    simp only [Step.Accepts] at h
    simp only [Step.effect]
    rcases run_takeEnvelope X myDid bytes now σ with
      ⟨a, pinned, pin', -, hpinned, hacc, hrun⟩ | ⟨e, hrun⟩
    · rw [hrun] at h ⊢
      cases h
      have hpin : σ.set .identity KV_OWNER_PIN (some (pinBytes pin)) .identity KV_OWNER_PIN =
          some (pinBytes pin) := Stores.set_self _ _ _ _
      exact ⟨hpin, hacc.follows_held hpinned⟩
    · rw [hrun] at h
      cases h
  | boot settings F cut =>
    obtain ⟨⟨container, checked, pinned, ht, rfl⟩, hpin⟩ := h
    have hfollows := Takes.follows_held ht
    rw [held_withSettings] at hfollows
    exact ⟨hpin, hfollows⟩

/-- A boot that returns an outcome of taking accepts an adoption at the roster it reports. -/
theorem accepts_of_taking {settings : String → Option Bytes} {F : KvFaults} {cut : F.OnlyCut}
    {o : Outcome} {owner : String} {roster : UInt32} {provisional : Bool}
    (ho : Taking o owner roster provisional)
    (h : (Prog.exec (apply X myDid) F (withSettings settings σ)).1 = some (.ok o)) :
    ∃ pin, (Step.boot settings F cut).Accepts X myDid σ pin ∧ pin.rosterVersion = roster := by
  have hexec : Prog.exec (apply X myDid) F (withSettings settings σ) = _ :=
    exec_of_onlyCut (orderly_apply X myDid).drawless F _ _ cut h
  rw [hexec] at h
  obtain ⟨container, checked, pinned, ht, rfl⟩ := takes_of_taking ho (Option.some.inj h)
  obtain ⟨-, hroster, -⟩ := taking_took ho
  have hstores := Proc.run_stores (apply X myDid) (withSettings settings σ)
  rw [(run_apply_takes ht).1] at hstores
  have heffect : (Step.boot settings F cut).effect X myDid σ =
      applyAll (takeWrites container checked) (withSettings settings σ) :=
    (congrArg Prod.snd hexec).trans hstores
  obtain ⟨-, -, hpin, -⟩ := taken_state container checked (withSettings settings σ)
  exact ⟨checked.pin, ⟨⟨container, checked, pinned, ht, rfl⟩, by rw [heffect, hpin]⟩, hroster.symm⟩

/-! ### Runs -/

theorem afterSteps_succ {steps : List Step} {i : ℕ} (h : i < steps.length) (σ : Device) :
    afterSteps X myDid (steps.take (i + 1)) σ =
      steps[i].effect X myDid (afterSteps X myDid (steps.take i) σ) := by
  exact foldl_take_succ h

/-- **Run.** -/
theorem history_afterSteps (h : WellPinned σ) (steps : List Step) :
    (∀ i, WellPinned (afterSteps X myDid (steps.take i) σ)) ∧
      History fun i => held (afterSteps X myDid (steps.take i) σ) := by
  have hwell : ∀ i, WellPinned (afterSteps X myDid (steps.take i) σ) := by
    intro i
    induction i with
    | zero => exact h
    | succ i ih =>
      by_cases hi : i < steps.length
      · rw [afterSteps_succ hi]
        exact (next_effect ih _).1
      · rw [List.take_of_length_le (by omega)]
        rwa [List.take_of_length_le (by omega)] at ih
  refine ⟨hwell, fun i => ?_⟩
  by_cases hi : i < steps.length
  · simp only [afterSteps_succ hi]
    exact (next_effect (hwell i) _).2
  · -- past the end nothing happens
    simp only [List.take_of_length_le (show steps.length ≤ i + 1 by omega),
      List.take_of_length_le (show steps.length ≤ i by omega)]
    exact Or.inl rfl

/-- **Trust on first use.** In every run from no pin or a well-formed one, the pinned owner never
changes and its roster version never decreases; a step that refuses leaves the pin; and every
envelope that is accepted names this device, is signed under the pinned key, and is no older than
anything accepted before it, at boots too. -/
theorem pin_is_trusted_on_first_use (X : Crates) (myDid : String) (h : WellPinned σ)
    (steps : List Step) :
    let τ := fun i => afterSteps X myDid (steps.take i) σ
    (∀ i, WellPinned (τ i)) ∧
    (∀ i j pin, i ≤ j → τ i .identity KV_OWNER_PIN = some (pinBytes pin) →
      ∃ pin', τ j .identity KV_OWNER_PIN = some (pinBytes pin') ∧
        pin'.genesisPubkey = pin.genesisPubkey ∧ pin.rosterVersion ≤ pin'.rosterVersion) ∧
    (∀ (i : ℕ) (hi : i < steps.length), steps[i].Refuses X myDid (τ i) →
      τ (i + 1) .identity KV_OWNER_PIN = τ i .identity KV_OWNER_PIN) ∧
    (∀ (i : ℕ) (hi : i < steps.length) (bytes : Bytes) (now : Option UInt64),
      steps[i] = .envelope bytes now → ∀ pin, steps[i].Accepts X myDid (τ i) pin →
        τ (i + 1) .identity KV_OWNER_PIN = some (pinBytes pin) ∧
        ∃ a, Adoption.decode bytes = .ok a ∧ a.fields.deviceDid = myDid ∧
          verifyPrehash X pin.genesisPubkey.toList (X.sha256 a.canonical) a.signature = .ok () ∧
          a.fields.rosterVersion = pin.rosterVersion ∧
          ∀ (j : ℕ) (hj : j < i) (pin' : OwnerPin), (steps[j]).Accepts X myDid (τ j) pin' →
            pin'.genesisPubkey = pin.genesisPubkey ∧
              pin'.rosterVersion ≤ a.fields.rosterVersion) ∧
    ∀ (i : ℕ) (hi : i < steps.length) (settings : String → Option Bytes) (F : KvFaults)
      (cut : F.OnlyCut), steps[i] = .boot settings F cut →
        ∀ o owner roster provisional, Taking o owner roster provisional →
          (Prog.exec (apply X myDid) F (withSettings settings (τ i))).1 = some (.ok o) →
            ∃ pin, steps[i].Accepts X myDid (τ i) pin ∧ pin.rosterVersion = roster := by
  intro τ
  have hrun : (∀ i, WellPinned (τ i)) ∧ History fun i => held (τ i) := history_afterSteps h steps
  obtain ⟨hwell, hhist⟩ := hrun
  have hsucc : ∀ (i : ℕ) (hi : i < steps.length), τ (i + 1) = steps[i].effect X myDid (τ i) :=
    fun i hi => afterSteps_succ hi σ
  refine ⟨hwell, ?_, ?_, ?_, ?_⟩
  · intro i j pin hij hpin
    obtain ⟨q, hq, hkey, hver⟩ := hhist.key_held hij (held_of_some hpin)
    rcases hwell j with hnone | ⟨pin', hpin'⟩
    · rw [held_of_none hnone] at hq
      exact absurd hq WithBot.bot_ne_coe
    · rw [held_of_some hpin', WithBot.coe_inj] at hq
      subst hq
      exact ⟨pin', hpin', hkey.symm, UInt32.le_iff_toNat_le.mpr hver⟩
  · intro i hi hrefuses
    rw [hsucc i hi]
    exact pin_of_refuses hrefuses
  · intro i hi bytes now hstep pin hacc
    obtain ⟨hpin, hfollows⟩ := held_of_accepts hacc
    rw [← hsucc i hi] at hpin
    rw [hstep] at hacc
    simp only [Step.Accepts] at hacc
    rcases run_takeEnvelope X myDid bytes now (τ i) with
      ⟨a, pinned, pin', hdecode, -, ha, hrun⟩ | ⟨e, hrun⟩
    · rw [hrun] at hacc
      cases hacc
      have hroster : a.fields.rosterVersion = pin.rosterVersion := by rw [ha.owner]
      refine ⟨hpin, a, hdecode, ha.named, ha.signed, hroster, ?_⟩
      intro j hj pin' hacc'
      obtain ⟨hpin', -⟩ := held_of_accepts hacc'
      rw [← hsucc j (by omega)] at hpin'
      have hle := hhist.le_accepted (show j + 1 ≤ i by omega) (held_of_some hpin') hfollows
      rw [asPin_le_iff, ← hroster] at hle
      exact hle
    · rw [hrun] at hacc
      cases hacc
  · intro i hi settings F cut hstep o owner roster provisional ho h
    rw [hstep]
    exact accepts_of_taking ho h

/-- A delivery cut after the pin, and taken again at the next boot: the owner is the same. -/
theorem pin_kept_over_cut_delivery :
    let steps : List Step := [.boot offer (Faults.cutAfter 3) (onlyCut_cutAfter 3),
      .boot offer (Faults.cutAfter 5) (onlyCut_cutAfter 5)]
    ∃ pin, afterSteps delivery deviceDid (steps.take 2) fresh .identity KV_OWNER_PIN =
        some (pinBytes pin) ∧
      pin.genesisPubkey = delivered.pin.genesisPubkey ∧
        delivered.pin.rosterVersion ≤ pin.rosterVersion := by
  intro steps
  obtain ⟨-, -, hpin, -⟩ := after_delivery (n := 3) (by decide)
  rw [afterCalls_singleton] at hpin
  have hfirst : afterSteps delivery deviceDid (steps.take 1) fresh =
      (deliveryCutAfter 3).effect delivery deviceDid fresh := by
    rw [afterSteps_succ (show 0 < steps.length by decide)]
    exact boot_effect _ _ _ _
  rw [← hfirst] at hpin
  exact (pin_is_trusted_on_first_use delivery deviceDid (Or.inl rfl) steps).2.1 1 2 _ (by decide)
    hpin

end EspMid.Adopting.TrustOnFirstUse
