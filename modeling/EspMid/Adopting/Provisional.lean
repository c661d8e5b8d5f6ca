import EspMid.Adopting.Presented

/-! # A structurally checked owner and its mark

Taking an adoption stores the pin before the mark that it is provisional, and forgetting the owner
removes the mark before the pin. A call that stops in between leaves an owner nobody verified
without the mark, or a statement presented as verified. These are the only calls that do
(`guarded_effect`, `unmarked_of_unlucky`): every other call keeps the store guarded. -/

namespace EspMid.Adopting.Provisional

open EspMid.Lib EspMid.Lib.StoreProg EspMid.Lib.Runs
open EspMid.Model.Core EspMid.Model.Identity EspMid.Model.Envelope EspMid.Model.SettingsAdoption
open EspMid.Adopting.Plan EspMid.Adopting.Presented

variable {X : Crates} {myDid : String} {σ : Device} {c : Call}

/-- The identity store holds no adoption. -/
def Unadopted (σ : Device) : Prop :=
  ∀ k ∈ [KV_ADOPTION, KV_ADOPTION_KIND, KV_OWNER_PIN, KV_PIN_PROVISIONAL], σ .identity k = none

/-- A pin is marked provisional, and a presented statement is reported so. -/
def Marked (X : Crates) (myDid : String) (σ : Device) : Prop :=
  (σ .identity KV_OWNER_PIN ≠ none → σ .identity KV_PIN_PROVISIONAL = some [1]) ∧
    ∀ st, Presents X myDid σ st → st.kind = KIND_MATA_STATEMENT → st.provisional = true

/-- The call stops between the mark and what it marks: it takes an adoption into a store without the
mark and stops after the kind or the pin, or it forgets a held owner and stops before the pin. -/
def Unlucky (X : Crates) (myDid : String) (c : Call) (σ : Device) : Prop :=
  (∃ container checked, c.TakesFrom X myDid σ container checked) ∧
      σ .identity KV_PIN_PROVISIONAL ≠ some [1] ∧ (c.made 5 = 2 ∨ c.made 5 = 3) ∨
    c.op = .forget ∧ (∃ pin, pinIn σ = .ok (some pin)) ∧ c.made 4 = 3

/-- The mark is set, or there is nothing to mark. -/
def Guarded (σ : Device) : Prop :=
  σ .identity KV_PIN_PROVISIONAL = some [1] ∨
    σ .identity KV_OWNER_PIN = none ∧ σ .identity KV_ADOPTION_KIND = none

theorem Unadopted.guarded (h : Unadopted σ) : Guarded σ :=
  Or.inr ⟨h _ (by simp), h _ (by simp)⟩

theorem Guarded.marked (h : Guarded σ) : Marked X myDid σ := by
  refine ⟨fun hpin => ?_, fun st hst hkind => ?_⟩
  · rcases h with h | ⟨h, -⟩
    · exact h
    · exact absurd h hpin
  · obtain ⟨-, hprov, hst⟩ := presents_iff.mp hst
    have hstmt : σ .identity KV_ADOPTION_KIND = some (asBytes KIND_MATA_STATEMENT) := by
      rcases hst with hst | hst
      · exact hst.marked
      · exact absurd (hst.kind.symm.trans hkind) (by decide)
    rcases h with h | ⟨-, h⟩
    · rw [hprov, h]
      rfl
    · rw [h] at hstmt
      cases hstmt

/-- **Step.** A call that does not stop in between keeps the store guarded. -/
theorem guarded_effect (h : Guarded σ) (hc : ¬ Unlucky X myDid c σ) :
    Guarded (c.effect X myDid σ) := by
  unfold Unlucky at hc
  rw [not_or] at hc
  unfold Guarded
  rcases effect_cases X myDid c σ with
    ⟨container, checked, ht, heff⟩ | ⟨hop, ⟨pinned, hpin⟩, heff⟩ | heff
  · obtain ⟨-, hkind, hpin, hprov, -⟩ := take_state container checked (c.made 5) σ
    rw [heff, hkind, hpin, hprov]
    by_cases h3 : 3 < c.made 5
    · exact Or.inl (if_pos h3)
    rw [if_neg h3]
    rcases h with h | ⟨hp, hk⟩
    · exact Or.inl h
    -- not marked yet: the call stopped before the kind
    by_cases hm : σ .identity KV_PIN_PROVISIONAL = some [1]
    · exact Or.inl hm
    · have hne := hc.1
      have h1 : ¬ 1 < c.made 5 := by
        intro h1
        exact hne ⟨⟨container, checked, ht⟩, hm, by omega⟩
      rw [if_neg (by omega), if_neg h1]
      exact Or.inr ⟨hp, hk⟩
  · obtain ⟨-, hkind, hprov, hown⟩ := forget_state (c.made 4) σ
    rw [heff, hkind, hprov, hown]
    by_cases h3 : 3 < c.made 4
    · exact Or.inr ⟨if_pos h3, if_pos (by omega)⟩
    rw [if_neg h3]
    by_cases h2 : 2 < c.made 4
    · -- all but the pin are gone, so no pin was held
      rw [if_pos h2, if_pos (by omega : 1 < c.made 4)]
      refine Or.inr ⟨?_, rfl⟩
      cases pinned with
      | none => exact pinIn_eq_none.mp hpin
      | some pin => exact absurd ⟨hop, ⟨pin, hpin⟩, by omega⟩ hc.2
    · rw [if_neg h2]
      rcases h with h | ⟨hp, hk⟩
      · exact Or.inl h
      · refine Or.inr ⟨hp, ?_⟩
        split_ifs
        · rfl
        · exact hk
  · rw [heff]
    exact h

/-- **The defect.** A call that stops in between leaves a store that is not marked. -/
theorem unmarked_of_unlucky (hc : Unlucky X myDid c σ) : ¬ Marked X myDid (c.effect X myDid σ) := by
  intro hmarked
  rcases hc with ⟨⟨container, checked, ht⟩, hm, hmade⟩ | ⟨hop, ⟨pin, hpin⟩, hmade⟩
  · obtain ⟨hadopt, hkind, hpin, hprov, -⟩ := take_state container checked (c.made 5) σ
    rw [← effect_of_takes ht] at hadopt hkind hpin hprov
    rw [if_neg (by omega)] at hprov
    rcases hmade with h2 | h3
    · -- the statement is presented, and not as provisional
      rw [if_pos (by omega)] at hadopt hkind
      obtain ⟨-, pinned, htakes⟩ := ht
      obtain ⟨-, hshort⟩ := Stores.read_eq_some.mp htakes.delivered
      have hst : Presents X myDid (c.effect X myDid σ)
          { ownerDid := checked.ownerDid, kind := KIND_MATA_STATEMENT, bytes := container,
            provisional := false } := by
        refine presents_iff.mpr ⟨⟨hadopt, hshort⟩, ?_, Or.inl ⟨hkind, ⟨_, htakes.checks, rfl⟩, rfl⟩⟩
        rw [hprov]
        exact (decide_eq_false hm).symm
      exact Bool.false_ne_true (hmarked.2 _ hst rfl)
    · rw [if_pos (by omega)] at hpin
      exact hm (hprov ▸ hmarked.1 (by rw [hpin]; simp))
  · obtain ⟨-, -, hprov, hown⟩ := forget_state (c.made 4) σ
    rw [← effect_of_forget hop hpin] at hprov hown
    rw [if_pos (by omega)] at hprov
    rw [if_neg (by omega), pinIn_eq_some.mp hpin] at hown
    have hmark := hmarked.1 (by rw [hown]; simp)
    rw [hprov] at hmark
    cases hmark

/-! ### Runs -/

/-- **Exactly the unlucky calls break the mark.** From a store without an adoption, every state a
run reaches is marked if and only if no call of the run stops between the mark and what it marks. -/
theorem marked_iff_no_unlucky_call (X : Crates) (myDid : String) (σ : Device) (h : Unadopted σ)
    (calls : List Call) :
    (∀ i ≤ calls.length, Marked X myDid (afterCalls X myDid (calls.take i) σ)) ↔
      ∀ (i : ℕ) (hi : i < calls.length),
        ¬ Unlucky X myDid calls[i] (afterCalls X myDid (calls.take i) σ) := by
  constructor
  · intro hall i hi hbad
    have hnext := hall (i + 1) hi
    rw [afterCalls_succ hi] at hnext
    exact unmarked_of_unlucky hbad hnext
  · intro hlucky i hi
    -- the store stays guarded, call by call
    suffices hg : Guarded (afterCalls X myDid (calls.take i) σ) from hg.marked
    exact foldl_take_invariant h.guarded (fun j hj ih => guarded_effect ih (hlucky j hj)) i hi

/-- A delivery that is run to its end leaves every state marked. -/
theorem marked_after_whole_delivery :
    Unadopted fresh ∧
      ∀ i ≤ [deliveryCutAfter 5].length, Marked delivery deviceDid
        (afterCalls delivery deviceDid ([deliveryCutAfter 5].take i) fresh) := by
  have hfresh : Unadopted fresh := fun k _ => rfl
  refine ⟨hfresh, (marked_iff_no_unlucky_call delivery deviceDid fresh hfresh _).mpr ?_⟩
  intro i hi
  obtain rfl : i = 0 := by simpa using hi
  rintro (⟨-, -, hmade⟩ | ⟨hop, -⟩)
  · have hall := made_delivery (n := 5) le_rfl
    simp only [List.getElem_cons_zero] at hmade
    omega
  · cases hop

/-- A delivery cut after the pin leaves an owner nobody verified, and no mark. -/
theorem delivery_cut_after_pin_unmarked :
    let left := afterCalls delivery deviceDid [deliveryCutAfter 3] fresh
    Unadopted fresh ∧ left .identity KV_OWNER_PIN = some (pinBytes delivered.pin) ∧
      left .identity KV_PIN_PROVISIONAL = none ∧ ¬ Marked delivery deviceDid left := by
  obtain ⟨-, -, hpin, hprov⟩ := after_delivery (n := 3) (by decide)
  refine ⟨fun k _ => rfl, hpin, hprov, fun hmarked => ?_⟩
  have hmark := hmarked.1 (by rw [hpin]; simp)
  rw [hprov] at hmark
  cases hmark

end EspMid.Adopting.Provisional
