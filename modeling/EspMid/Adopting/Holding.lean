import EspMid.Adopting.Presented
import EspMid.Lib.Pinning

/-! # The owner a device holds

The stored pin as a holding of `Pinning`, and what the operations do to it: both paths of acceptance
check that what they accept follows what is held (`Takes.follows_held`, `accept_follows`). -/

namespace EspMid.Adopting.Holding

open EspMid.Lib EspMid.Lib.StoreProg EspMid.Lib.Pinning
open EspMid.Model.Core EspMid.Model.Identity EspMid.Model.Envelope EspMid.Model.SettingsAdoption
open EspMid.Adopting.Plan

variable {X : Crates} {myDid : String} {σ : Device} {c : Call}

/-- A stored pin as a pin. -/
def asPin (pin : OwnerPin) : Pin (Array8 33) ℕ :=
  { key := pin.genesisPubkey, version := pin.rosterVersion.toNat }

/-- What a device holds. -/
def held (σ : Device) : Held (Array8 33) ℕ :=
  match pinIn σ with
  | .ok (some pin) => asPin pin
  | _ => ⊥

/-- The device holds no pin, or a pin as this code stores it. -/
def WellPinned (σ : Device) : Prop :=
  σ .identity KV_OWNER_PIN = none ∨ ∃ pin, σ .identity KV_OWNER_PIN = some (pinBytes pin)

theorem held_of_none (h : σ .identity KV_OWNER_PIN = none) : held σ = ⊥ := by
  unfold held
  rw [pinIn_of_none h]

theorem held_of_some {pin : OwnerPin} (h : σ .identity KV_OWNER_PIN = some (pinBytes pin)) :
    held σ = asPin pin := by
  unfold held
  rw [pinIn_of_some h]

theorem asPin_le_iff {p q : OwnerPin} :
    asPin p ≤ asPin q ↔ p.genesisPubkey = q.genesisPubkey ∧ p.rosterVersion ≤ q.rosterVersion := by
  rw [le_iff, UInt32.le_iff_toNat_le]
  rfl

theorem held_congr {τ : Device} (h : τ .identity KV_OWNER_PIN = σ .identity KV_OWNER_PIN) :
    held τ = held σ := by
  unfold held pinIn
  rw [h]

/-! ### Both paths check what they accept -/

theorem Takes.follows_held {container : Bytes} {checked : Checked} {pinned : Option OwnerPin}
    (h : Takes X myDid σ container checked pinned) : held σ ≤ asPin checked.pin := by
  unfold held
  rw [h.held]
  cases pinned with
  | none => exact bot_le
  | some pin => exact WithBot.coe_le_coe.mpr (asPin_le_iff.mpr (h.follows pin rfl))

theorem held_withSettings (settings : String → Option Bytes) (σ : Device) :
    held (withSettings settings σ) = held σ := rfl

/-- What `accept` returns: the pin of an adoption for this device, signed under the pinned key. -/
structure Accepts (X : Crates) (a : Adoption) (myDid : String) (pinned : Option OwnerPin)
    (now : Option UInt64) (pin : OwnerPin) : Prop where
  named : a.fields.deviceDid = myDid
  signed : verifyPrehash X pin.genesisPubkey.toList (X.sha256 a.canonical) a.signature = .ok ()
  follows : ∀ p ∈ pinned, p.genesisPubkey = pin.genesisPubkey ∧ p.rosterVersion ≤ pin.rosterVersion
  unexpired : ∀ t ∈ now, a.fields.expiresAt = 0 ∨ t < a.fields.expiresAt
  owner : pin = { genesisPubkey := a.fields.ownerGenesisPubkey,
                  rosterVersion := a.fields.rosterVersion }

theorem pin_refuses_eq_false {a : Adoption} {pinned : Option OwnerPin} :
    (match pinned with
      | none => false
      | some pin => decide (pin.genesisPubkey ≠ a.fields.ownerGenesisPubkey) ||
          decide (a.fields.rosterVersion < pin.rosterVersion)) = false ↔
      ∀ p ∈ pinned, p.genesisPubkey = a.fields.ownerGenesisPubkey ∧
        p.rosterVersion ≤ a.fields.rosterVersion := by
  cases pinned <;> simp

theorem expired_eq_false {a : Adoption} {now : Option UInt64} :
    (match now with
      | none => false
      | some now => decide (a.fields.expiresAt ≠ 0) && decide (now ≥ a.fields.expiresAt)) = false ↔
      ∀ t ∈ now, a.fields.expiresAt = 0 ∨ t < a.fields.expiresAt := by
  cases now <;> simp [or_iff_not_imp_left]

theorem accept_eq_ok {a : Adoption} {pinned : Option OwnerPin} {now : Option UInt64}
    {pin : OwnerPin} :
    a.accept X myDid pinned now = .ok pin ↔ Accepts X a myDid pinned now pin := by
  unfold Adoption.accept Adoption.verifySignature
  constructor
  · intro h
    split_ifs at h with hnamed
    obtain ⟨u, hsigned, h⟩ := Framing.bind_eq_ok.mp h
    simp only at h
    split_ifs at h with hpin hnow
    cases h
    exact ⟨not_not.mp hnamed, hsigned, pin_refuses_eq_false.mp (Bool.eq_false_iff.mpr hpin),
      expired_eq_false.mp (Bool.eq_false_iff.mpr hnow), rfl⟩
  · rintro ⟨hnamed, hsigned, hfollows, hnow, rfl⟩
    have hpin := Bool.eq_false_iff.mp (pin_refuses_eq_false.mpr hfollows)
    have htime := Bool.eq_false_iff.mp (expired_eq_false.mpr hnow)
    rw [if_neg (not_not.mpr hnamed), hsigned, Framing.ok_bind]
    exact (if_neg hpin).trans (if_neg htime)

theorem Accepts.follows_held {a : Adoption} {pinned : Option OwnerPin} {now : Option UInt64}
    {pin : OwnerPin} (h : Accepts X a myDid pinned now pin) (hpin : pinIn σ = .ok pinned) :
    held σ ≤ asPin pin := by
  unfold held
  rw [hpin]
  cases pinned with
  | none => exact bot_le
  | some p => exact WithBot.coe_le_coe.mpr (asPin_le_iff.mpr (h.follows p rfl))

/-! ### What a call does to the pin -/

/-- A call leaves the pin, or stores the pin of the adoption it takes, or it forgets the owner. -/
theorem pin_effect (X : Crates) (myDid : String) (c : Call) (σ : Device) :
    c.effect X myDid σ .identity KV_OWNER_PIN = σ .identity KV_OWNER_PIN ∨
      (∃ container checked, c.TakesFrom X myDid σ container checked ∧
        c.effect X myDid σ .identity KV_OWNER_PIN = some (pinBytes checked.pin)) ∨
      c.op = .forget ∧ c.effect X myDid σ .identity KV_OWNER_PIN = none := by
  rcases effect_cases X myDid c σ with ⟨container, checked, ht, heff⟩ | ⟨hop, -, heff⟩ | heff
  · obtain ⟨-, -, hpin, -⟩ := take_state container checked (c.made 5) σ
    rw [heff, hpin]
    split_ifs
    · exact Or.inr (Or.inl ⟨container, checked, ht, rfl⟩)
    · exact Or.inl rfl
  · obtain ⟨-, -, -, hpin⟩ := forget_state (c.made 4) σ
    rw [heff, hpin]
    split_ifs
    · exact Or.inr (Or.inr ⟨hop, rfl⟩)
    · exact Or.inl rfl
  · exact Or.inl (by rw [heff])

theorem wellPinned_effect (h : WellPinned σ) : WellPinned (c.effect X myDid σ) := by
  unfold WellPinned at h ⊢
  rcases pin_effect X myDid c σ with hsame | ⟨container, checked, -, hpin⟩ | ⟨-, hpin⟩
  · rw [hsame]
    exact h
  · exact Or.inr ⟨_, hpin⟩
  · exact Or.inl hpin

end EspMid.Adopting.Holding
