import EspMid.Adopting.Presented

/-! # Taking an adoption survives power cuts

`apply` cut after any of its writes, and run again on what the cut left, plans the same writes again
(`apply_rerun`): the delivered container is removed last, and the pin it may have written already is
its own. Prefixes of one list of writes absorb each other, so any number of cut runs leaves a prefix
of the writes of the first, and the last run completes it. -/

namespace EspMid.Adopting.PowerCuts

open EspMid.Lib EspMid.Lib.StoreProg
open EspMid.Model.Core EspMid.Model.Identity EspMid.Model.Envelope EspMid.Model.SettingsAdoption
open EspMid.Adopting.Plan EspMid.Adopting.Presented

variable {X : Crates} {myDid : String} {σ : Device}

theorem separate_takeWrites (container : Bytes) (checked : Checked) :
    Separate (takeWrites container checked) := by
  unfold Separate takeWrites
  simp [Write.target, KV_ADOPTION, KV_ADOPTION_KIND, KV_OWNER_PIN, KV_PIN_PROVISIONAL]

/-- An adoption taken up to the last write is taken again. -/
theorem takes_again {container : Bytes} {checked : Checked} {pinned : Option OwnerPin}
    (h : Takes X myDid σ container checked pinned) {n : ℕ} (hn : n ≤ 4) :
    ∃ pinned', Takes X myDid (applyAll ((takeWrites container checked).take n) σ) container checked
      pinned' := by
  obtain ⟨-, -, hpin, -, hset⟩ := take_state container checked n σ
  rw [if_neg (by omega)] at hset
  have hread : (applyAll ((takeWrites container checked).take n) σ).read .settings SETTINGS_ADOPT
      ADOPT_MAX = (.ok (some container) : Result _) := by
    rw [← h.delivered]
    unfold Stores.read
    rw [hset]
  by_cases hn2 : 2 < n
  · -- the pin is the container's own
    rw [if_pos hn2] at hpin
    exact ⟨_, hread, h.checks, pinIn_of_some hpin, by simp⟩
  · rw [if_neg hn2] at hpin
    refine ⟨pinned, hread, h.checks, ?_, h.follows⟩
    rw [← h.held]
    unfold pinIn
    rw [hpin]

/-- **A rerun plans the same writes**, or finds them all made; it refuses only what was refused. -/
theorem apply_rerun (X : Crates) (myDid : String) (σ : Device) (n : ℕ) :
    let W := (apply X myDid).runWrites σ
    let τ := applyAll (W.take n) σ
    ((apply X myDid).runWrites τ = W ∨ (apply X myDid).runWrites τ = [] ∧ τ = applyAll W σ) ∧
      ∀ o, ((apply X myDid).run σ).1 = .ok o →
        ∃ o', ((apply X myDid).run τ).1 = .ok o' ∧ ∀ why, o' = .refused why → o = .refused why := by
  intro W τ
  -- all writes made: the settings are clear, and nothing is left to do
  have hdone : τ .settings SETTINGS_ADOPT = none → τ = applyAll W σ →
      ((apply X myDid).runWrites τ = W ∨ (apply X myDid).runWrites τ = [] ∧ τ = applyAll W σ) ∧
      ∀ o, ((apply X myDid).run σ).1 = .ok o →
        ∃ o', ((apply X myDid).run τ).1 = .ok o' ∧ ∀ why, o' = .refused why → o = .refused why := by
    intro hnone hall
    obtain ⟨hw, hr⟩ := run_apply_nothing X myDid hnone
    exact ⟨Or.inr ⟨hw, hall⟩, fun o _ => ⟨_, hr, by simp⟩⟩
  -- no write made: the same run again
  have hsame : τ = σ →
      ((apply X myDid).runWrites τ = W ∨ (apply X myDid).runWrites τ = [] ∧ τ = applyAll W σ) ∧
      ∀ o, ((apply X myDid).run σ).1 = .ok o →
        ∃ o', ((apply X myDid).run τ).1 = .ok o' ∧ ∀ why, o' = .refused why → o = .refused why := by
    intro hτ
    rw [hτ]
    exact ⟨Or.inl rfl, fun o ho => ⟨o, ho, fun _ h => h⟩⟩
  rcases apply_cases X myDid σ with ⟨container, checked, pinned, h⟩ | ⟨why, hw, -⟩ | ⟨hw, -⟩
  · obtain ⟨hw, hr⟩ := run_apply_takes h
    have hW : W = takeWrites container checked := hw
    by_cases hn : n ≤ 4
    · obtain ⟨pinned', h'⟩ := takes_again h hn
      rw [← hW] at h'
      obtain ⟨hw', hr'⟩ := run_apply_takes h'
      refine ⟨Or.inl (hw'.trans hw.symm), fun o _ => ⟨_, hr', fun why hwhy => ?_⟩⟩
      unfold took at hwhy
      split_ifs at hwhy
    · have hall : W.take n = W := List.take_of_length_le (by rw [hW, takeWrites]; simp; omega)
      refine hdone ?_ (by simp only [τ, hall])
      obtain ⟨-, -, -, -, hset⟩ := take_state container checked n σ
      rw [if_pos (by omega)] at hset
      simp only [τ, hW, hset]
  · have hW : W = clearWrites := hw
    rcases n with _ | n
    · exact hsame rfl
    · refine hdone ?_ ?_
      · simp [τ, hW, clearWrites, Write.apply]
      · simp only [τ, hW, clearWrites, List.take_succ_cons, List.take_nil]
  · have hW : W = [] := hw
    exact hsame (by simp [τ, hW])

/-- The stores after several runs of `apply`, the `i`-th cut after `cuts[i]` writes. -/
def restarts (X : Crates) (myDid : String) (cuts : List ℕ) (σ : Device) : Device :=
  cuts.foldl (fun τ n => (Prog.exec (apply X myDid) (Faults.cutAfter n) τ).2) σ

theorem separate_runWrites (X : Crates) (myDid : String) (σ : Device) :
    Separate ((apply X myDid).runWrites σ) := by
  rcases apply_cases X myDid σ with ⟨container, checked, pinned, h⟩ | ⟨why, hw, -⟩ | ⟨hw, -⟩
  · rw [(run_apply_takes h).1]
    exact separate_takeWrites _ _
  · rw [hw]
    exact List.pairwise_singleton _ _
  · rw [hw]
    exact List.Pairwise.nil

/-- Cut runs make a prefix of the writes of the first. -/
theorem restarts_eq (X : Crates) (myDid : String) (cuts : List ℕ) (σ : Device) :
    ∃ n, restarts X myDid cuts σ = applyAll (((apply X myDid).runWrites σ).take n) σ := by
  induction cuts using List.reverseRecOn with
  | nil => exact ⟨0, rfl⟩
  | append_singleton cuts m ih =>
    obtain ⟨n, hn⟩ := ih
    unfold restarts at hn ⊢
    rw [List.foldl_append, hn]
    simp only [List.foldl_cons, List.foldl_nil]
    rw [exec_cutShort (orderly_apply X myDid) (readsDone_cutAfter m)]
    rcases (apply_rerun X myDid σ n).1 with hw | ⟨hw, -⟩
    · exact ⟨_, by rw [hw, applyAll_take_take (separate_runWrites X myDid σ)]⟩
    · exact ⟨n, by rw [hw, List.take_nil, applyAll_nil]⟩

/-- **`apply` survives power cuts.** However many runs are cut, and wherever, the last run returns
and leaves what one uninterrupted run leaves: nothing in the settings to be taken again, and every
other key as it was. It refuses only what the uninterrupted run refuses. -/
theorem apply_survives_power_cuts (X : Crates) (myDid : String) (σ : Device) (cuts : List ℕ)
    (o : Outcome) (h : (Prog.exec (apply X myDid) Faults.calm σ).1 = some (.ok o)) :
    ∃ o', (Prog.exec (apply X myDid) Faults.calm (restarts X myDid cuts σ)).1 = some (.ok o') ∧
      (Prog.exec (apply X myDid) Faults.calm (restarts X myDid cuts σ)).2 =
        (Prog.exec (apply X myDid) Faults.calm σ).2 ∧
      (∀ why, o' = .refused why → o = .refused why) ∧
      (Prog.exec (apply X myDid) Faults.calm σ).2 .settings SETTINGS_ADOPT = none ∧
      ∀ s k, (s, k) ∉ ownKeys → (Prog.exec (apply X myDid) Faults.calm σ).2 s k = σ s k := by
  have hcalm : ∀ τ, Prog.exec (apply X myDid) Faults.calm τ =
      (some ((apply X myDid).run τ).1, ((apply X myDid).run τ).2) := exec_calm _
  simp only [hcalm, Option.some.injEq, Proc.run_stores] at h ⊢
  obtain ⟨n, hn⟩ := restarts_eq X myDid cuts σ
  obtain ⟨hplan, hresult⟩ := apply_rerun X myDid σ n
  obtain ⟨o', ho', hrefused⟩ := hresult o h
  rw [hn]
  refine ⟨o', ho', ?_, hrefused, ?_, ?_⟩
  · rcases hplan with hw | ⟨hw, hall⟩
    · -- all the writes, over a prefix of themselves
      have hfull := applyAll_take_take (separate_runWrites X myDid σ)
        ((apply X myDid).runWrites σ).length n σ
      rw [List.take_length] at hfull
      rw [hw, hfull, List.take_of_length_le (le_max_left _ _)]
    · rw [hw, applyAll_nil]
      exact hall
  · rcases apply_cases X myDid σ with ⟨container, checked, pinned, ht⟩ | ⟨why, hw, -⟩ | ⟨hw, hr⟩
    · obtain ⟨-, -, -, -, hset⟩ := taken_state container checked σ
      rw [(run_apply_takes ht).1]
      exact hset
    · rw [hw]
      simp [clearWrites, Write.apply]
    · rw [hw, applyAll_nil]
      rcases hr with ⟨-, hnone⟩ | ⟨e, he⟩
      · exact hnone
      · rw [he] at h
        cases h
  · intro s k hk
    have hframe := exec_frame (writesIn_apply X myDid) (fun _ => hk) Faults.calm σ
    simp only [hcalm, Proc.run_stores] at hframe
    exact hframe

/-- A delivery cut after three writes, again after one, and then run to its end. -/
theorem delivery_survives_two_cuts :
    let last := Prog.exec (apply delivery deviceDid) Faults.calm
      (restarts delivery deviceDid [3, 1] (withSettings offer fresh))
    last.2 .identity KV_OWNER_PIN = some (pinBytes delivered.pin) ∧
      last.2 .settings SETTINGS_ADOPT = none := by
  have hexec := exec_apply_takes takes_delivery
  obtain ⟨o', -, hlast, -, hclear, -⟩ := apply_survives_power_cuts delivery deviceDid
    (withSettings offer fresh) [3, 1] (took delivered none) (congrArg Prod.fst hexec)
  obtain ⟨-, -, hpin, -⟩ := taken_state container delivered (withSettings offer fresh)
  simp only [hlast]
  refine ⟨?_, hclear⟩
  rw [hexec]
  exact hpin

end EspMid.Adopting.PowerCuts
