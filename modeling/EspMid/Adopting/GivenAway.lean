import EspMid.Adopting.Exits

/-! # Giving the device away

`forget` reads the pin before it removes anything. Where no pin is stored, or a pin of the right
length, it removes the owner's four keys and nothing else, the next owner adopts the device afresh,
and a call that was cut is completed by the next. A stored pin of another length stops it at once,
and the owner stays (`givesAway_iff`, `short_pin_stays`). -/

namespace EspMid.Adopting.GivenAway

open EspMid.Lib EspMid.Lib.StoreProg
open EspMid.Model.Core EspMid.Model.Identity EspMid.Model.Envelope EspMid.Model.SettingsAdoption
open EspMid.Adopting.Plan EspMid.Adopting.Presented EspMid.Adopting.Exits

variable {X : Crates} {myDid : String} {σ : Device}

/-- The identity keys of an owner. -/
def ownerKeys : List String := [KV_ADOPTION, KV_ADOPTION_KIND, KV_PIN_PROVISIONAL, KV_OWNER_PIN]

/-- The device after `forget`. -/
def forgotten (σ : Device) : Device := (Prog.exec forget Faults.calm σ).2

/-- The device after `forget`, the power cut after `n` removals. -/
def forgottenUpTo (n : ℕ) (σ : Device) : Device := (Prog.exec forget (Faults.cutAfter n) σ).2

/-- The device is given away: `forget` returns and leaves nothing of the owner and everything else,
the next statement that passes the check is a first adoption, and a cut `forget` is completed by
another, which reports the owner as long as the pin was left. -/
structure GivesAway (X : Crates) (myDid : String) (σ : Device) : Prop where
  returns : ∃ held, (Prog.exec forget Faults.calm σ).1 = some (.ok held)
  gone : ∀ k ∈ ownerKeys, forgotten σ .identity k = none
  kept : ∀ k, k ∉ ownerKeys → forgotten σ .identity k = σ .identity k
  next : ∀ settings container checked, settings SETTINGS_ADOPT = some container →
    container.length ≤ ADOPT_MAX → checkStatement X container myDid = .ok checked →
      (Prog.exec (apply X myDid) Faults.calm (withSettings settings (forgotten σ))).1 =
        some (.ok (.adopted checked.ownerDid checked.pin.rosterVersion true))
  completed : ∀ n, forgotten (forgottenUpTo n σ) = forgotten σ
  reports : ∀ n pin, σ .identity KV_OWNER_PIN = some (pinBytes pin) → n < 4 →
    (Prog.exec forget Faults.calm (forgottenUpTo n σ)).1 = some (.ok true)

theorem separate_forgetWrites : Separate forgetWrites := by
  unfold Separate forgetWrites
  simp [Write.target, KV_ADOPTION, KV_ADOPTION_KIND, KV_OWNER_PIN, KV_PIN_PROVISIONAL]

/-! ### Where the pin can be read -/

section Readable
variable {pinned : Option OwnerPin}

theorem exec_forget (h : pinIn σ = .ok pinned) :
    Prog.exec forget Faults.calm σ = (some (.ok pinned.isSome), applyAll forgetWrites σ) ∧
      forget.runWrites σ = forgetWrites := by
  rcases run_forget σ with ⟨pinned', hpin, hw, hr⟩ | ⟨e, he, -⟩
  · rw [h] at hpin
    cases hpin
    have hstores := Proc.run_stores forget σ
    rw [hw] at hstores
    exact ⟨(exec_calm _ σ).trans (Prod.ext (congrArg some hr) hstores), hw⟩
  · rw [h] at he
    cases he

theorem forgotten_eq (h : pinIn σ = .ok pinned) : forgotten σ = applyAll forgetWrites σ :=
  congrArg Prod.snd (exec_forget h).1

theorem forgottenUpTo_eq (h : pinIn σ = .ok pinned) (n : ℕ) :
    forgottenUpTo n σ = applyAll (forgetWrites.take n) σ := by
  have hcut := exec_cutShort orderly_forget (readsDone_cutAfter n) σ
  rw [(exec_forget h).2, lead_cutAfter] at hcut
  have hlen : forgetWrites.length = 4 := rfl
  rw [hlen] at hcut
  refine hcut.trans ?_
  rw [min_comm, ← List.take_take, List.take_of_length_le (by simp [hlen])]

theorem pinIn_forgottenUpTo (h : pinIn σ = .ok pinned) (n : ℕ) :
    pinIn (forgottenUpTo n σ) = .ok (if 3 < n then none else pinned) := by
  rw [forgottenUpTo_eq h]
  obtain ⟨-, -, -, hpin⟩ := forget_state n σ
  split_ifs with hn
  · rw [if_pos hn] at hpin
    exact pinIn_of_none hpin
  · rw [if_neg hn] at hpin
    rw [← h]
    unfold pinIn
    rw [hpin]

theorem forgotten_gone (h : pinIn σ = .ok pinned) {k : String} (hk : k ∈ ownerKeys) :
    forgotten σ .identity k = none := by
  rw [forgotten_eq h]
  obtain ⟨h1, h2, h3, h4⟩ := forget_state 4 σ
  simp only [ownerKeys, List.mem_cons, List.not_mem_nil, or_false] at hk
  rcases hk with rfl | rfl | rfl | rfl
  · exact h1
  · exact h2
  · exact h3
  · exact h4

theorem forgotten_kept (h : pinIn σ = .ok pinned) {k : String} (hk : k ∉ ownerKeys) :
    forgotten σ .identity k = σ .identity k := by
  rw [forgotten_eq h]
  simp only [ownerKeys, List.mem_cons, List.not_mem_nil, or_false, not_or] at hk
  obtain ⟨h1, h2, h3, h4⟩ := hk
  refine applyAll_frame (fun w hw => ?_) σ
  simp only [forgetWrites, List.mem_cons, List.not_mem_nil, or_false] at hw
  rcases hw with rfl | rfl | rfl | rfl <;> simp [Write.target, Ne.symm, h1, h2, h3, h4]

/-- The next statement that passes the check is taken as a first adoption. -/
theorem adopts_afresh (h : pinIn σ = .ok pinned) {settings : String → Option Bytes}
    {container : Bytes} {checked : Checked} (hdelivered : settings SETTINGS_ADOPT = some container)
    (hlen : container.length ≤ ADOPT_MAX)
    (hcheck : checkStatement X container myDid = .ok checked) :
    (Prog.exec (apply X myDid) Faults.calm (withSettings settings (forgotten σ))).1 =
      some (.ok (.adopted checked.ownerDid checked.pin.rosterVersion true)) := by
  have ht : Takes X myDid (withSettings settings (forgotten σ)) container checked none := by
    refine ⟨Stores.read_eq_some.mpr ⟨hdelivered, hlen⟩, hcheck, ?_, by simp⟩
    exact pinIn_of_none (forgotten_gone h (by simp [ownerKeys]))
  exact congrArg Prod.fst (exec_apply_takes ht)

/-- A cut call is completed by the next. -/
theorem forgotten_forgottenUpTo (h : pinIn σ = .ok pinned) (n : ℕ) :
    forgotten (forgottenUpTo n σ) = forgotten σ := by
  have hall := applyAll_take_take separate_forgetWrites 4 n σ
  have htake : forgetWrites.take 4 = forgetWrites := rfl
  have hmax : forgetWrites.take (max 4 n) = forgetWrites :=
    List.take_of_length_le (le_max_left 4 n)
  rw [htake, hmax] at hall
  rw [forgotten_eq (pinIn_forgottenUpTo h n), forgotten_eq h, forgottenUpTo_eq h, hall]

theorem givesAway_of_pinIn (h : pinIn σ = .ok pinned) : GivesAway X myDid σ where
  returns := ⟨_, congrArg Prod.fst (exec_forget h).1⟩
  gone _ hk := forgotten_gone h hk
  kept _ hk := forgotten_kept h hk
  next _ _ _ hdelivered hlen hcheck := adopts_afresh h hdelivered hlen hcheck
  completed n := forgotten_forgottenUpTo h n
  reports n pin hpin hn := by
    rw [pinIn_of_some hpin] at h
    cases h
    have hleft := pinIn_forgottenUpTo (pinIn_of_some hpin) n
    rw [if_neg (by omega)] at hleft
    exact congrArg Prod.fst (exec_forget hleft).1

end Readable

/-! ### Exactly there -/

/-- **When the device can be given away**: no pin is stored, or one of the right length. -/
theorem givesAway_iff (X : Crates) (myDid : String) (σ : Device) :
    GivesAway X myDid σ ↔ ∀ v, σ .identity KV_OWNER_PIN = some v → v.length = OwnerPin.LEN := by
  rw [← pinIn_eq_ok]
  constructor
  · rintro ⟨⟨held, hreturns⟩, -⟩
    rcases run_forget σ with ⟨pinned, hpin, -⟩ | ⟨e, -, -, hr⟩
    · exact ⟨pinned, hpin⟩
    · have hexec := (congrArg Prod.fst (exec_calm forget σ)).symm.trans hreturns
      have hok : (forget.run σ).1 = .ok held := Option.some.inj hexec
      rw [hr] at hok
      cases hok
  · rintro ⟨pinned, hpin⟩
    exact givesAway_of_pinIn hpin

/-- **The defect.** On a device whose stored pin is one byte, `forget` fails and removes nothing. -/
theorem short_pin_stays :
    (Prog.exec forget Faults.calm shortPin).1 = some (.error .corrupt) ∧
      forgotten shortPin .identity KV_OWNER_PIN = some [0] := by
  have hpin : pinIn shortPin = .error .corrupt := by decide +kernel
  rcases run_forget shortPin with ⟨pinned, hok, -⟩ | ⟨e, he, hw, hr⟩
  · rw [hpin] at hok
    cases hok
  · rw [hpin] at he
    cases he
    have hstores := Proc.run_stores forget shortPin
    rw [hw] at hstores
    have hexec := exec_calm forget shortPin
    refine ⟨(congrArg Prod.fst hexec).trans (congrArg some hr), ?_⟩
    exact congrFun (congrFun ((congrArg Prod.snd hexec).trans hstores) .identity) KV_OWNER_PIN

end EspMid.Adopting.GivenAway
