import EspMid.Adopting.Holding
import EspMid.Adopting.Provisional
import EspMid.Codec.Envelope

/-! # The grant presented and the owner pinned

Whatever bytes the identity store holds as the adoption, some call of the run took them as a
statement for this device, and they follow the stored pin (`Attributed`): the container is written
before the pin, and removed before it. So the owner presented is the owner pinned, at any point
where a call may stop. -/

namespace EspMid.Adopting.OwnerGrant

open EspMid.Lib EspMid.Lib.StoreProg EspMid.Lib.Runs EspMid.Lib.Pinning
open EspMid.Model.Core EspMid.Model.Identity EspMid.Model.Envelope EspMid.Model.SettingsAdoption
open EspMid.Codec.Envelope
open EspMid.Adopting.Plan EspMid.Adopting.Presented EspMid.Adopting.Provisional
open EspMid.Adopting.Holding

variable {X : Crates} {myDid : String} {σ : Device} {c : Call} {taken : Bytes → Checked → Prop}

/-- `serde_json` reads JSON texts: they begin with white space or with a value. -/
def JsonTexts (X : Crates) : Prop :=
  ∀ b v, X.jsonFromSlice b = some v →
    ∃ c ∈ asBytes " \t\n\r\x7b[\"-0123456789tfn", b.head? = some c

theorem head_of_decode {b : Bytes} {a : Adoption} (h : Adoption.decode b = .ok a) :
    b.head? = ADOPTION_DOMAIN.head? := by
  obtain ⟨-, hcanon, hb, -⟩ := decode_eq_ok.mp h
  have hdomain : ADOPTION_DOMAIN ≠ [] := by decide +kernel
  rw [hb, hcanon, layout, List.append_assoc, List.head?_append_of_ne_nil _ hdomain]

theorem decode_ne_ok (hjson : JsonTexts X) {b : Bytes} {k : Checked}
    (h : checkStatement X b myDid = .ok k) (a : Adoption) : Adoption.decode b ≠ .ok a := by
  intro ha
  obtain ⟨content, jws, payload, body, hp⟩ := passes_of_check h
  obtain ⟨outer, houter, -⟩ := hp.container
  obtain ⟨c, hc, hhead⟩ := hjson b outer houter
  have hdomain := head_of_decode ha
  rw [hhead] at hdomain
  have hno : ∀ c ∈ asBytes " \t\n\r\x7b[\"-0123456789tfn", ¬ some c = ADOPTION_DOMAIN.head? := by
    decide +kernel
  exact hno c hc hdomain

/-! ### The invariant -/

/-- The stored grant is one that was taken, and follows the pin. -/
structure Attributed (X : Crates) (myDid : String) (taken : Bytes → Checked → Prop) (σ : Device) :
    Prop where
  pinned : WellPinned σ
  grant : ∀ b, σ .identity KV_ADOPTION = some b →
    ∃ k, checkStatement X b myDid = .ok k ∧ taken b k ∧ held σ ≤ asPin k.pin

theorem Unadopted.attributed (h : Unadopted σ) : Attributed X myDid taken σ where
  pinned := Or.inl (h _ (by simp))
  grant := by
    intro b hb
    rw [h _ (by simp)] at hb
    cases hb

/-- **Step.** A call keeps the grant attributed, to itself where it takes one. -/
theorem attributed_effect (h : Attributed X myDid taken σ)
    (hnew : ∀ b k, c.TakesFrom X myDid σ b k → taken b k) :
    Attributed X myDid taken (c.effect X myDid σ) := by
  refine ⟨wellPinned_effect h.pinned, ?_⟩
  rcases effect_cases X myDid c σ with ⟨container, checked, ht, heff⟩ | ⟨-, -, heff⟩ | heff
  · obtain ⟨hadopt, -, hpin, -⟩ := take_state container checked (c.made 5) σ
    obtain ⟨-, pinned, htakes⟩ := id ht
    have hfollows := Takes.follows_held htakes
    rw [held_withSettings] at hfollows
    rw [← heff] at hadopt hpin
    -- the pin is the old one, or the new grant's own
    have hheld : held (c.effect X myDid σ) = held σ ∨
        held (c.effect X myDid σ) = asPin checked.pin := by
      split_ifs at hpin
      · exact Or.inr (held_of_some hpin)
      · exact Or.inl (held_congr hpin)
    intro b hb
    rw [hadopt] at hb
    split_ifs at hb with h0
    · cases hb
      refine ⟨checked, htakes.checks, hnew _ _ ht, ?_⟩
      rcases hheld with hheld | hheld
      · rw [hheld]
        exact hfollows
      · rw [hheld]
    · -- nothing was written
      rw [if_neg (by omega)] at hpin
      rw [held_congr hpin]
      exact h.grant b hb
  · obtain ⟨hadopt, -, -, hpin⟩ := forget_state (c.made 4) σ
    rw [← heff] at hadopt hpin
    intro b hb
    rw [hadopt] at hb
    split_ifs at hb
    rw [if_neg (by omega)] at hpin
    rw [held_congr hpin]
    exact h.grant b hb
  · intro b hb
    rw [heff] at hb
    rw [held_congr (by rw [heff])]
    exact h.grant b hb

/-! ### Runs -/

/-- Some call of the run took the container. -/
def TakenIn (X : Crates) (myDid : String) (calls : List Call) (σ : Device) (container : Bytes)
    (checked : Checked) : Prop :=
  ∃ (j : ℕ) (hj : j < calls.length),
    calls[j].TakesFrom X myDid (afterCalls X myDid (calls.take j) σ) container checked

/-- **Run.** -/
theorem attributed_afterCalls (h : Unadopted σ) (calls : List Call) :
    Attributed X myDid (TakenIn X myDid calls σ) (afterCalls X myDid calls σ) := by
  have hall : Attributed X myDid (TakenIn X myDid calls σ)
      (afterCalls X myDid (calls.take calls.length) σ) :=
    foldl_take_invariant (Unadopted.attributed h)
      (fun j hj ih => attributed_effect ih fun b k ht => ⟨j, hj, ht⟩) _ le_rfl
  rwa [List.take_length] at hall

theorem presents_taken {container : Bytes} {checked : Checked}
    (hlen : container.length ≤ ADOPT_MAX) (hcheck : checkStatement X container myDid = .ok checked)
    (σ : Device) (st : Stored) :
    Presents X myDid (applyAll (takeWrites container checked) σ) st ↔
      st = { ownerDid := checked.ownerDid, kind := KIND_MATA_STATEMENT, bytes := container,
             provisional := true } := by
  obtain ⟨hadopt, hkind, -, hprov, -⟩ := taken_state container checked σ
  rw [presents_iff, hadopt, hprov]
  constructor
  · rintro ⟨⟨hbytes, -⟩, hmark, hst | hst⟩
    · obtain ⟨k, hk, howner⟩ := hst.checks
      cases Option.some.inj hbytes
      rw [hcheck] at hk
      cases hk
      rcases st with ⟨owner, kind, bytes, provisional⟩
      have hkind := hst.kind
      simp only at howner hkind hmark
      rw [howner, hkind, hmark]
      rfl
    · exact absurd hkind hst.unmarked
  · rintro rfl
    exact ⟨⟨rfl, hlen⟩, rfl, Or.inl ⟨hkind, ⟨checked, hcheck, rfl⟩, rfl⟩⟩

/-- **The grant presented and the pin enforced are of one owner.** In every state a run reaches, and
after every `apply` that takes an adoption. -/
theorem grant_belongs_to_pinned_owner (myDid : String) (hjson : JsonTexts X) (h : Unadopted σ)
    (calls : List Call) :
    let τ := afterCalls X myDid calls σ
    (∀ v st, τ .identity KV_OWNER_PIN = some v → Presents X myDid τ st →
      ∃ pin, v = pinBytes pin ∧
        (∃ d : Did X, Did.parse st.ownerDid = .ok d ∧ d.pubkey = pin.genesisPubkey) ∧
        ∃ k, TakenIn X myDid calls σ st.bytes k ∧ checkStatement X st.bytes myDid = .ok k ∧
          pin.rosterVersion ≤ k.pin.rosterVersion) ∧
    ∀ (settings : String → Option Bytes) (F : KvFaults), F.ReadsDone →
      ∀ o owner roster provisional, Taking o owner roster provisional →
        let last := Prog.exec (apply X myDid) F (withSettings settings τ)
        last.1 = some (.ok o) →
          ∃ container k, settings SETTINGS_ADOPT = some container ∧
            checkStatement X container myDid = .ok k ∧ k.pin.rosterVersion = roster ∧
            (∀ st, Presents X myDid last.2 st ↔
              st = { ownerDid := owner, kind := KIND_MATA_STATEMENT, bytes := container,
                     provisional := true }) ∧
            last.2 .identity KV_OWNER_PIN = some (pinBytes k.pin) := by
  intro τ
  have hattr : Attributed X myDid (TakenIn X myDid calls σ) τ := attributed_afterCalls h calls
  constructor
  · intro v st hv hst
    obtain ⟨⟨hadopt, -⟩, -, hst⟩ := presents_iff.mp hst
    obtain ⟨k, hk, htaken, hfollows⟩ := hattr.grant _ hadopt
    obtain ⟨pin, hpin⟩ : ∃ pin, τ .identity KV_OWNER_PIN = some (pinBytes pin) := by
      rcases hattr.pinned with hnone | hsome
      · rw [hnone] at hv
        cases hv
      · exact hsome
    rw [held_of_some hpin, WithBot.coe_le_coe, asPin_le_iff] at hfollows
    have howner : st.ownerDid = k.ownerDid := by
      rcases hst with hst | hst
      · obtain ⟨k', hk', howner⟩ := hst.checks
        rw [hk] at hk'
        cases hk'
        exact howner
      · obtain ⟨a, ha, -⟩ := hst.decodes
        exact absurd ha (decode_ne_ok hjson hk a)
    obtain ⟨content, jws, payload, body, hp⟩ := passes_of_check hk
    obtain ⟨d, hd, hkey⟩ := hp.key
    refine ⟨pin, ?_, ⟨d, ?_, ?_⟩, k, htaken, hk, hfollows.2⟩
    · rw [hpin] at hv
      exact (Option.some.inj hv).symm
    · rw [howner, hd]
    · rw [hkey, hfollows.1]
  · intro settings F hF o owner roster provisional ho last hlast
    rcases exec_interrupted (orderly_apply X myDid) hF (withSettings settings τ) with
      ⟨hall, -⟩ | ⟨-, -, hbad⟩
    · have hrun : last = _ := hall
      rw [hrun] at hlast
      obtain ⟨container, k, pinned, ht, rfl⟩ := takes_of_taking ho (Option.some.inj hlast)
      obtain ⟨rfl, rfl, rfl⟩ := taking_took ho
      obtain ⟨hdelivered, hlen⟩ := Stores.read_eq_some.mp ht.delivered
      have hstores : last.2 = applyAll (takeWrites container k) (withSettings settings τ) := by
        rw [hrun, ← (run_apply_takes ht).1]
        exact Proc.run_stores _ _
      obtain ⟨-, -, hpin, -⟩ := taken_state container k (withSettings settings τ)
      refine ⟨container, k, hdelivered, ht.checks, rfl, ?_, ?_⟩
      · rw [hstores]
        exact presents_taken hlen ht.checks _
      · rw [hstores]
        exact hpin
    · exact absurd hlast (hbad o)

theorem head_of_take {b : Bytes} {text : String} (h : b.take 9 = asBytes text) :
    b.head? = (asBytes text).head? := by
  have hhead : (b.take 9).head? = b.head? := by simp [List.head?_take]
  rw [← hhead, h]

theorem jsonTexts_delivery : JsonTexts delivery := by
  intro b v h
  obtain ⟨l, l', htable, -⟩ := List.lookup_eq_some_iff.mp h
  have hmem : (b, v) ∈ l ++ (b, v) :: l' := by simp
  rw [← htable] at hmem
  simp only [List.mem_cons, Prod.mk.injEq, List.not_mem_nil, or_false] at hmem
  refine ⟨0x7b, by decide +kernel, ?_⟩
  rcases hmem with ⟨rfl, -⟩ | ⟨rfl, -⟩ | ⟨rfl, -⟩ | ⟨rfl, -⟩
  · rw [head_of_take container_take]
    decide +kernel
  · rw [head_of_take header_take]
    decide +kernel
  · rw [head_of_take payload_take]
    decide +kernel
  · rw [head_of_take content_take]
    decide +kernel

/-- A delivery cut after the pin: the owner presented is the owner pinned. -/
theorem cut_delivery_belongs_to_pinned_owner :
    let left := afterCalls delivery deviceDid [deliveryCutAfter 3] fresh
    left .identity KV_OWNER_PIN = some (pinBytes delivered.pin) ∧
      Presents delivery deviceDid left
        { ownerDid := ownerDid, kind := KIND_MATA_STATEMENT, bytes := container,
          provisional := false } ∧
      ∃ pin, pinBytes delivered.pin = pinBytes pin ∧
        ∃ d : Did delivery, Did.parse ownerDid = .ok d ∧ d.pubkey = pin.genesisPubkey := by
  have hfresh : Unadopted fresh := fun k _ => rfl
  obtain ⟨-, -, hpin, -⟩ := after_delivery (n := 3) (by decide)
  have hst := presents_delivery (n := 3) (by decide) (by decide)
  obtain ⟨pin, hv, howner, -⟩ := (grant_belongs_to_pinned_owner deviceDid jsonTexts_delivery hfresh
    [deliveryCutAfter 3]).1 _ _ hpin hst
  exact ⟨hpin, hst, pin, hv, howner⟩

end EspMid.Adopting.OwnerGrant
