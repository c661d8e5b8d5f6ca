import EspMid.Adopting.Presented

/-! # What `apply` leaves behind

A refused delivery changes nothing but the settings: `apply` puts nothing before every check has
passed, and removes nothing but the delivery (`refused_changes_only_settings`). But it does not
always remove that. Where the delivery passes the check and the stored pin cannot be read, `apply`
returns early, and the delivery stays for the next boot (`cleared_iff`, `delivery_stays`). -/

namespace EspMid.Adopting.Exits

open EspMid.Lib EspMid.Lib.StoreProg
open EspMid.Model.Core EspMid.Model.Identity EspMid.Model.Envelope EspMid.Model.SettingsAdoption
open EspMid.Adopting.Plan EspMid.Adopting.Presented

variable {X : Crates} {myDid : String} {σ : Device}

/-! ### The delivery is cleared -/

/-- No delivery is left, and no other setting is changed. -/
def Cleared (X : Crates) (myDid : String) (σ : Device) : Prop :=
  let τ := (Prog.exec (apply X myDid) Faults.calm σ).2
  τ .settings SETTINGS_ADOPT = none ∧ ∀ k, k ≠ SETTINGS_ADOPT → τ .settings k = σ .settings k

theorem result_apply (X : Crates) (myDid : String) (σ : Device) :
    (Prog.exec (apply X myDid) Faults.calm σ).1 = some ((apply X myDid).run σ).1 :=
  congrArg Prod.fst (exec_calm _ σ)

theorem stores_apply (X : Crates) (myDid : String) (σ : Device) :
    (Prog.exec (apply X myDid) Faults.calm σ).2 = applyAll ((apply X myDid).runWrites σ) σ :=
  (congrArg Prod.snd (exec_calm _ σ)).trans (Proc.run_stores _ σ)

theorem settings_of_ne (X : Crates) (myDid : String) (σ : Device) {k : String}
    (hk : k ≠ SETTINGS_ADOPT) (F : KvFaults) :
    (Prog.exec (apply X myDid) F σ).2 .settings k = σ .settings k := by
  refine exec_frame (writesIn_apply X myDid) (fun v hv => ?_) F σ
  simp [ToOwnKeys, ownKeys, hk] at hv

/-- **When the delivery is cleared.** -/
theorem cleared_iff (X : Crates) (myDid : String) (σ : Device) :
    Cleared X myDid σ ↔
      ∀ container checked, σ .settings SETTINGS_ADOPT = some container →
        container.length ≤ ADOPT_MAX → checkStatement X container myDid = .ok checked →
          ∀ pin, σ .identity KV_OWNER_PIN = some pin → pin.length = OwnerPin.LEN := by
  constructor
  · rintro ⟨hnone, -⟩ container checked hdelivered hlen hcheck
    rw [← pinIn_eq_ok]
    cases hpin : pinIn σ with
    | ok pinned => exact ⟨pinned, rfl⟩
    | error e =>
      have hread := Stores.read_eq_some (ε := Error).mpr ⟨hdelivered, hlen⟩
      obtain ⟨hw, -⟩ := run_apply_stuck ⟨container, checked, hread, hcheck, hpin⟩
      rw [stores_apply, hw, applyAll_nil, hdelivered] at hnone
      cases hnone
  · intro h
    refine ⟨?_, fun k hk => settings_of_ne X myDid σ hk _⟩
    rw [stores_apply]
    rcases delivery_cases X myDid σ with ⟨container, checked, pinned, ht⟩ | hr | hnone | ⟨e, hs⟩
    · obtain ⟨-, -, -, -, hset⟩ := taken_state container checked σ
      rw [(run_apply_takes ht).1]
      exact hset
    · obtain ⟨why, hw, -⟩ := run_apply_refuses hr
      rw [hw]
      simp [clearWrites, Write.apply]
    · rw [(run_apply_nothing X myDid hnone).1]
      exact hnone
    · obtain ⟨container, checked, hread, hcheck, hpin⟩ := hs
      obtain ⟨hdelivered, hlen⟩ := Stores.read_eq_some.mp hread
      obtain ⟨pinned, hok⟩ := pinIn_eq_ok.mpr (h container checked hdelivered hlen hcheck)
      rw [hpin] at hok
      cases hok

/-- An identity store whose pin is one byte. -/
def shortPin : Device := withSettings offer fun _ k => if k = KV_OWNER_PIN then some [0] else none

/-- **The defect.** A well-formed delivery to a device with such a pin stays in the settings. -/
theorem delivery_stays :
    (Prog.exec (apply delivery deviceDid) Faults.calm shortPin).1 = some (.error .corrupt) ∧
      (Prog.exec (apply delivery deviceDid) Faults.calm shortPin).2 .settings SETTINGS_ADOPT =
        some container := by
  have hread : shortPin.read .settings SETTINGS_ADOPT ADOPT_MAX =
      (.ok (some container) : Result _) :=
    Stores.read_eq_some.mpr ⟨rfl, by rw [length_container]; decide⟩
  have hpin : pinIn shortPin = .error .corrupt := by decide +kernel
  obtain ⟨hw, hr⟩ := run_apply_stuck ⟨container, delivered, hread, check_delivery, hpin⟩
  rw [result_apply, stores_apply, hw, hr]
  exact ⟨rfl, rfl⟩

/-! ### A refusal changes nothing but the settings -/

/-- The identity store is as before, and of the settings only the delivery may be gone. -/
structure OnlyCleared (σ τ : Device) : Prop where
  identity : τ .identity = σ .identity
  settings : ∀ k, k ≠ SETTINGS_ADOPT → τ .settings k = σ .settings k
  delivery : τ .settings SETTINGS_ADOPT = σ .settings SETTINGS_ADOPT ∨
    τ .settings SETTINGS_ADOPT = none

theorem OnlyCleared.refl (σ : Device) : OnlyCleared σ σ := ⟨rfl, fun _ _ => rfl, Or.inl rfl⟩

theorem OnlyCleared.remove {τ : Device} (h : OnlyCleared σ τ) :
    OnlyCleared σ (τ.set .settings SETTINGS_ADOPT none) where
  identity := by
    funext k
    have hset : (τ.set .settings SETTINGS_ADOPT none) .identity k = τ .identity k :=
      Stores.set_of_store_ne (by decide)
    rw [hset, h.identity]
  settings k hk := by
    have hset : (τ.set .settings SETTINGS_ADOPT none) .settings k = τ .settings k :=
      Stores.set_of_key_ne hk
    rw [hset, h.settings k hk]
  delivery := Or.inr (Stores.set_self _ _ _ _)

/-- The outcomes of a boot that takes nothing. -/
def TakesNothing (r : Result Outcome) : Prop := r = .ok .nothing ∨ ∃ why, r = .ok (.refused why)

theorem wp_refuse (why : String) (σ : Device) :
    Prog.wp (refuse why) (fun r τ => TakesNothing r → OnlyCleared σ τ) (fun _ => True) σ :=
  ⟨True.intro, fun _ _ => OnlyCleared.refl σ, fun _ => (OnlyCleared.refl σ).remove⟩

theorem wp_take (container : Bytes) (checked : Checked) (pinned : Option OwnerPin)
    (Q : Device → Prop) (σ : Device) :
    Prog.wp (take container checked pinned) (fun r τ => TakesNothing r → Q τ) (fun _ => True)
      σ := by
  have herr : ∀ (e : Error) (τ : Device), TakesNothing (.error e) → Q τ := by
    rintro e τ (h | ⟨why, h⟩) <;> cases h
  refine wp_procBind_any _ (fun _ τ => ?_) herr σ
  refine wp_procBind_any _ (fun _ τ => ?_) herr τ
  refine wp_procBind_any _ (fun _ τ => ?_) herr τ
  refine wp_procBind_any _ (fun _ τ => ?_) herr τ
  refine wp_procBind_any _ (fun _ τ => ?_) herr τ
  refine wp_procBind_any _ (fun _ τ => ?_) herr τ
  split_ifs
  · rintro (h | ⟨why, h⟩) <;> cases h
  · rintro (h | ⟨why, h⟩) <;> cases h

/-- Whatever fails, a boot that takes nothing changes nothing but the settings. -/
theorem wp_apply (X : Crates) (myDid : String) (σ : Device) :
    Prog.wp (apply X myDid) (fun r τ => TakesNothing r → OnlyCleared σ τ) (fun _ => True) σ := by
  refine wp_attemptGet _ _ _ fun r => ?_
  split
  · exact fun _ => OnlyCleared.refl σ
  · exact wp_refuse _ σ
  · exact fun _ => OnlyCleared.refl σ
  · split
    · exact wp_refuse _ σ
    · refine wp_procBind_reads writesIn_storedPin (fun pinned => ?_)
        (fun _ _ => OnlyCleared.refl σ) True.intro
      split
      · split_ifs
        · exact wp_refuse _ σ
        · exact wp_refuse _ σ
        · exact wp_take _ _ _ _ σ
      · exact wp_take _ _ _ _ σ

theorem onlyCleared_of_no_put (X : Crates) (myDid : String) (F : KvFaults) (σ : Device)
    (h : ∀ s k v, Write.put s k v ∉ Prog.writes (apply X myDid) F σ) :
    OnlyCleared σ (Prog.exec (apply X myDid) F σ).2 := by
  have hallowed := writes_allowed (p := apply X myDid)
    (W := fun s k v => v = none → s = .settings ∧ k = SETTINGS_ADOPT)
    (writesIn_apply_of (fun _ _ _ hv => by cases hv) fun _ => ⟨rfl, rfl⟩) F σ
  have hstores := exec_stores (apply X myDid) F σ
  generalize Prog.writes (apply X myDid) F σ = ws at h hallowed hstores
  rw [hstores]
  clear hstores
  suffices hall : ∀ τ, OnlyCleared σ τ → OnlyCleared σ (applyAll ws τ) from
    hall σ (OnlyCleared.refl σ)
  induction ws with
  | nil => exact fun τ hτ => hτ
  | cons w ws ih =>
    intro τ hτ
    refine ih (fun s k v hv => h s k v (List.mem_cons_of_mem _ hv))
      (fun w' hw' => hallowed w' (List.mem_cons_of_mem _ hw')) (w.apply τ) ?_
    cases w with
    | put s k v => exact absurd List.mem_cons_self (h s k v)
    | remove s k =>
      obtain ⟨rfl, rfl⟩ := hallowed _ List.mem_cons_self rfl
      exact hτ.remove

/-! ### What is refused, and what is taken -/

/-- Why a delivered container is refused: it is too long, fails the check, or a well-formed pin is
stored that has another key or a greater roster version. -/
inductive Refusable (X : Crates) (myDid : String) (σ : Device) (container : Bytes) : Prop where
  | tooLong (h : ADOPT_MAX < container.length)
  | fails (why : String) (h : checkStatement X container myDid = .error why)
  | pinned (checked : Checked) (pin : OwnerPin)
      (checks : checkStatement X container myDid = .ok checked)
      (held : σ .identity KV_OWNER_PIN = some (pinBytes pin))
      (other : pin.genesisPubkey ≠ checked.pin.genesisPubkey ∨
        checked.pin.rosterVersion < pin.rosterVersion)

theorem refuses_of_refusable {container : Bytes}
    (hdelivered : σ .settings SETTINGS_ADOPT = some container)
    (h : Refusable X myDid σ container) : Refuses X myDid σ := by
  by_cases hlong : ADOPT_MAX < container.length
  · exact .tooLong container hdelivered hlong
  have hread := Stores.read_eq_some (ε := Error).mpr ⟨hdelivered, not_lt.mp hlong⟩
  cases h with
  | tooLong hlong' => exact absurd hlong' hlong
  | fails why hwhy => exact .fails container why hread hwhy
  | pinned checked pin checks held other =>
    exact .pinned container checked pin hread checks (pinIn_of_some held) other

/-- **A refused adoption changes nothing but the settings.** Whatever fails or is cut, a boot that
takes nothing, or has put nothing, leaves the identity store as it was. When nothing fails, a
refusable delivery is refused; an adoption is a first one only where no pin was stored, and another
only where the stored pin has its key and no greater roster version. -/
theorem refused_changes_only_settings (X : Crates) (myDid : String) (σ : Device) :
    (∀ F : KvFaults,
        (∃ r, (Prog.exec (apply X myDid) F σ).1 = some r ∧ TakesNothing r) ∨
            (∀ s k v, Write.put s k v ∉ Prog.writes (apply X myDid) F σ) →
          OnlyCleared σ (Prog.exec (apply X myDid) F σ).2) ∧
      (∀ container, σ .settings SETTINGS_ADOPT = some container →
        Refusable X myDid σ container →
          ∃ why, (Prog.exec (apply X myDid) Faults.calm σ).1 = some (.ok (.refused why))) ∧
      (∀ owner roster provisional, (Prog.exec (apply X myDid) Faults.calm σ).1 =
          some (.ok (.adopted owner roster provisional)) → σ .identity KV_OWNER_PIN = none) ∧
      ∀ owner roster provisional, (Prog.exec (apply X myDid) Faults.calm σ).1 =
          some (.ok (.rehomed owner roster provisional)) →
        ∃ container checked pin, σ .settings SETTINGS_ADOPT = some container ∧
          checkStatement X container myDid = .ok checked ∧
          σ .identity KV_OWNER_PIN = some (pinBytes pin) ∧
          pin.genesisPubkey = checked.pin.genesisPubkey ∧
          pin.rosterVersion ≤ checked.pin.rosterVersion := by
  refine ⟨?_, ?_, ?_, ?_⟩
  · rintro F (⟨r, hr, hnothing⟩ | hput)
    · exact (exec_of_wp (wp_apply X myDid σ) F).1 r hr hnothing
    · exact onlyCleared_of_no_put X myDid F σ hput
  · intro container hdelivered h
    obtain ⟨why, -, hr⟩ := run_apply_refuses (refuses_of_refusable hdelivered h)
    exact ⟨why, by rw [result_apply, hr]⟩
  · intro owner roster provisional h
    rw [result_apply] at h
    obtain ⟨container, checked, pinned, ht, ho⟩ := takes_of_taking (Or.inl rfl) (Option.some.inj h)
    unfold took at ho
    split_ifs at ho with hpinned
    have hnone : pinned = none := by simpa using hpinned
    exact pinIn_eq_none.mp (hnone ▸ ht.held)
  · intro owner roster provisional h
    rw [result_apply] at h
    obtain ⟨container, checked, pinned, ht, ho⟩ := takes_of_taking (Or.inr rfl) (Option.some.inj h)
    unfold took at ho
    split_ifs at ho with hpinned
    obtain ⟨pin, rfl⟩ := Option.isSome_iff_exists.mp hpinned
    obtain ⟨hkey, hroster⟩ := ht.follows pin rfl
    obtain ⟨hdelivered, -⟩ := Stores.read_eq_some.mp ht.delivered
    exact ⟨container, checked, pin, hdelivered, ht.checks, pinIn_eq_some.mp ht.held, hkey, hroster⟩

end EspMid.Adopting.Exits
