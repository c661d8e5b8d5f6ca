import EspMid.Lib.Runs
import EspMid.Lib.StoreRun
import EspMid.Model.SettingsAdoption

/-! # What taking and forgetting an adoption write

`storedPin`, `apply` and `forget` as functions of the two stores: which of its cases `apply` takes
(`apply_cases`) and the writes it makes there, in order. Interrupted by failing writes or a power
cut, either operation makes a prefix of its writes (`StoreProg.exec_interrupted`). -/

namespace EspMid.Adopting.Plan

open EspMid.Lib EspMid.Lib.StoreProg EspMid.Lib.Runs
open EspMid.Model.Core EspMid.Model.Identity EspMid.Model.Envelope EspMid.Model.SettingsAdoption

variable {X : Crates} {myDid : String}

abbrev Device := KvStores Partition

/-! ### The stored pin -/

/-- A pin as it is stored. -/
def pinBytes (pin : OwnerPin) : Bytes := pin.genesisPubkey.toList ++ be32 pin.rosterVersion

@[simp] theorem length_pinBytes (pin : OwnerPin) : (pinBytes pin).length = OwnerPin.LEN := by
  simp [pinBytes, OwnerPin.LEN]

theorem encode_pin (pin : OwnerPin) :
    pin.encode (List.replicate OwnerPin.LEN 0) = (.ok OwnerPin.LEN, pinBytes pin) := by
  unfold OwnerPin.encode pinBytes
  rw [if_neg (by simp), List.drop_eq_nil_of_le (by simp), List.append_nil]

theorem decode_pin (pin : OwnerPin) : OwnerPin.decode (pinBytes pin) = .ok pin := by
  unfold OwnerPin.decode
  rw [if_neg (not_not.mpr (length_pinBytes pin)), pinBytes,
    List.take_left' pin.genesisPubkey.toList_length, toArray8_toList,
    List.drop_left' pin.genesisPubkey.toList_length, ofBe32_be32]

theorem exists_pinBytes {v : Bytes} (h : v.length = OwnerPin.LEN) : ∃ pin, pinBytes pin = v := by
  unfold OwnerPin.LEN at h
  refine ⟨⟨⟨v.take 33, by simp [h]⟩, ofBe32 (v.drop 33)⟩, ?_⟩
  unfold pinBytes
  rw [List.Vector.toList_mk, be32_ofBe32 (by simp [h]), List.take_append_drop]

/-- What reading the pin gives. -/
def pinIn (σ : Device) : Result (Option OwnerPin) :=
  match σ .identity KV_OWNER_PIN with
  | none => .ok none
  | some v =>
    if v.length = OwnerPin.LEN then (OwnerPin.decode v).map some
    else if v.length ≤ OwnerPin.LEN then .error .corrupt
    else .error (.bufferTooSmall v.length)

theorem run_storedPin (σ : Device) : storedPin.run σ = (pinIn σ, σ) := by
  unfold storedPin pinIn
  simp only [Proc.run_bind, Proc.run_get, Stores.read]
  cases σ .identity KV_OWNER_PIN with
  | none => rfl
  | some v =>
    by_cases hlen : v.length = OwnerPin.LEN
    · simp only [hlen, le_refl, if_true]
      cases OwnerPin.decode v with
      | ok pin => simp [Except.map]
      | error e => simp [Except.map]
    · by_cases hle : v.length ≤ OwnerPin.LEN
      · simp [hlen, hle]
      · simp only [hlen, hle, if_false]
        rfl

theorem runWrites_storedPin (σ : Device) : storedPin.runWrites σ = [] := by
  unfold storedPin
  simp only [Proc.runWrites_bind, Proc.runWrites_get, Proc.run_get, List.nil_append]
  split
  · split
    · split_ifs
      · simp only [Proc.runWrites_bind, Proc.runWrites_ofExcept, List.nil_append]
        split <;> rfl
      · rfl
    · rfl
  · rfl

theorem orderly_storedPin : Orderly storedPin := by
  refine Orderly.bind (Orderly.get _ _ _) fun v => ?_
  cases v with
  | none => exact Orderly.pure _
  | some v =>
    simp only
    split_ifs
    · exact Orderly.bind (Orderly.ret _) fun pin => Orderly.pure _
    · exact Orderly.fail _

theorem pinIn_of_none {σ : Device} (h : σ .identity KV_OWNER_PIN = none) : pinIn σ = .ok none := by
  unfold pinIn
  rw [h]

theorem pinIn_of_some {σ : Device} {pin : OwnerPin}
    (h : σ .identity KV_OWNER_PIN = some (pinBytes pin)) : pinIn σ = .ok (some pin) := by
  unfold pinIn
  simp only [h, length_pinBytes, if_true, decode_pin]
  rfl

theorem pinIn_eq_none {σ : Device} : pinIn σ = .ok none ↔ σ .identity KV_OWNER_PIN = none := by
  refine ⟨fun h => ?_, pinIn_of_none⟩
  cases hv : σ .identity KV_OWNER_PIN with
  | none => rfl
  | some v =>
    unfold pinIn at h
    simp only [hv] at h
    split_ifs at h
    cases hd : OwnerPin.decode v <;> rw [hd] at h <;> cases h

theorem pinIn_eq_some {σ : Device} {pin : OwnerPin} :
    pinIn σ = .ok (some pin) ↔ σ .identity KV_OWNER_PIN = some (pinBytes pin) := by
  refine ⟨fun h => ?_, pinIn_of_some⟩
  cases hv : σ .identity KV_OWNER_PIN with
  | none => rw [pinIn_of_none hv] at h; cases h
  | some v =>
    unfold pinIn at h
    simp only [hv] at h
    split_ifs at h with hlen
    obtain ⟨pin', rfl⟩ := exists_pinBytes hlen
    rw [decode_pin] at h
    cases h
    rfl

/-- The pin is read, unless its value has another length. -/
theorem pinIn_eq_ok {σ : Device} :
    (∃ pinned, pinIn σ = .ok pinned) ↔
      ∀ v, σ .identity KV_OWNER_PIN = some v → v.length = OwnerPin.LEN := by
  constructor
  · rintro ⟨pinned, h⟩ v hv
    cases pinned with
    | none =>
      rw [pinIn_eq_none.mp h] at hv
      cases hv
    | some pin =>
      rw [pinIn_eq_some.mp h] at hv
      cases hv
      exact length_pinBytes pin
  · intro h
    cases hv : σ .identity KV_OWNER_PIN with
    | none => exact ⟨none, pinIn_of_none hv⟩
    | some v =>
      obtain ⟨pin, rfl⟩ := exists_pinBytes (h v hv)
      exact ⟨some pin, pinIn_of_some hv⟩

/-! ### The writes of each case -/

/-- The writes that take an adoption. -/
def takeWrites (container : Bytes) (checked : Checked) : List (Write Partition String UInt8) :=
  [.put .identity KV_ADOPTION container,
    .put .identity KV_ADOPTION_KIND (asBytes KIND_MATA_STATEMENT),
    .put .identity KV_OWNER_PIN (pinBytes checked.pin),
    .put .identity KV_PIN_PROVISIONAL [1],
    .remove .settings SETTINGS_ADOPT]

/-- The write that clears a refused adoption. -/
def clearWrites : List (Write Partition String UInt8) := [.remove .settings SETTINGS_ADOPT]

/-- The writes that forget the owner. -/
def forgetWrites : List (Write Partition String UInt8) :=
  [.remove .identity KV_ADOPTION, .remove .identity KV_ADOPTION_KIND,
    .remove .identity KV_PIN_PROVISIONAL, .remove .identity KV_OWNER_PIN]

/-- The outcome of taking an adoption. -/
def took (checked : Checked) (pinned : Option OwnerPin) : Outcome :=
  if pinned.isSome then .rehomed checked.ownerDid checked.pin.rosterVersion true
  else .adopted checked.ownerDid checked.pin.rosterVersion true

/-- `apply` takes the delivered container: it passes the check, and follows the stored pin. -/
structure Takes (X : Crates) (myDid : String) (σ : Device) (container : Bytes) (checked : Checked)
    (pinned : Option OwnerPin) : Prop where
  delivered : σ.read .settings SETTINGS_ADOPT ADOPT_MAX = (.ok (some container) : Result _)
  checks : checkStatement X container myDid = .ok checked
  held : pinIn σ = .ok pinned
  follows : ∀ pin ∈ pinned, pin.genesisPubkey = checked.pin.genesisPubkey ∧
    pin.rosterVersion ≤ checked.pin.rosterVersion

/-- `apply` refuses the delivered container: it is too long, fails the check, or does not follow the
stored pin. -/
inductive Refuses (X : Crates) (myDid : String) (σ : Device) : Prop where
  | tooLong (v : Bytes) (delivered : σ .settings SETTINGS_ADOPT = some v)
      (long : ADOPT_MAX < v.length)
  | fails (container : Bytes) (why : String)
      (delivered : σ.read .settings SETTINGS_ADOPT ADOPT_MAX = (.ok (some container) : Result _))
      (check : checkStatement X container myDid = .error why)
  | pinned (container : Bytes) (checked : Checked) (pin : OwnerPin)
      (delivered : σ.read .settings SETTINGS_ADOPT ADOPT_MAX = (.ok (some container) : Result _))
      (checks : checkStatement X container myDid = .ok checked) (held : pinIn σ = .ok (some pin))
      (other : pin.genesisPubkey ≠ checked.pin.genesisPubkey ∨
        checked.pin.rosterVersion < pin.rosterVersion)

/-- `apply` cannot read the pin that the delivered container is to follow. -/
def Stuck (X : Crates) (myDid : String) (σ : Device) (e : Error) : Prop :=
  ∃ container checked,
    σ.read .settings SETTINGS_ADOPT ADOPT_MAX = (.ok (some container) : Result _) ∧
      checkStatement X container myDid = .ok checked ∧ pinIn σ = .error e

theorem run_refuse (why : String) (σ : Device) :
    (refuse why).runWrites σ = clearWrites ∧ ((refuse why).run σ).1 = .ok (.refused why) := by
  unfold refuse clearWrites
  simp

theorem run_take (container : Bytes) (checked : Checked) (pinned : Option OwnerPin) (σ : Device) :
    (take container checked pinned).runWrites σ = takeWrites container checked ∧
      ((take container checked pinned).run σ).1 = .ok (took checked pinned) := by
  unfold take takeWrites took
  simp only [encode_pin, Proc.runWrites_bind, Proc.run_bind, Proc.run_put, Proc.runWrites_put,
    Proc.run_ofExcept, Proc.runWrites_ofExcept, Proc.run_remove, Proc.runWrites_remove]
  split_ifs
  · exact ⟨rfl, rfl⟩
  · exact ⟨rfl, rfl⟩

theorem run_forget (σ : Device) :
    (∃ pinned, pinIn σ = .ok pinned ∧ forget.runWrites σ = forgetWrites ∧
        (forget.run σ).1 = .ok pinned.isSome) ∨
      ∃ e, pinIn σ = .error e ∧ forget.runWrites σ = [] ∧ (forget.run σ).1 = .error e := by
  unfold forget forgetWrites
  simp only [Proc.runWrites_bind, Proc.run_bind, run_storedPin, runWrites_storedPin]
  cases pinIn σ with
  | ok pinned => exact Or.inl ⟨pinned, rfl, rfl, rfl⟩
  | error e => exact Or.inr ⟨e, rfl, rfl, rfl⟩

/-- What `apply` does with an adoption it takes. -/
theorem run_apply_takes {σ : Device} {container : Bytes} {checked : Checked}
    {pinned : Option OwnerPin} (h : Takes X myDid σ container checked pinned) :
    (apply X myDid).runWrites σ = takeWrites container checked ∧
      ((apply X myDid).run σ).1 = .ok (took checked pinned) := by
  unfold apply
  simp only [Proc.runWrites_bind, Proc.run_bind, Proc.run_attempt, Proc.runWrites_attempt,
    Proc.run_get, Proc.runWrites_get, h.delivered, h.checks, run_storedPin, runWrites_storedPin,
    h.held, List.nil_append]
  cases pinned with
  | none => exact run_take _ _ _ _
  | some pin =>
    obtain ⟨hkey, hroster⟩ := h.follows pin rfl
    simp only [ne_eq, hkey, not_true_eq_false, if_false, UInt32.not_lt.mpr hroster]
    exact run_take _ _ _ _

theorem exec_apply_takes {σ : Device} {container : Bytes} {checked : Checked}
    {pinned : Option OwnerPin} (h : Takes X myDid σ container checked pinned) :
    Prog.exec (apply X myDid) Faults.calm σ =
      (some (.ok (took checked pinned)), applyAll (takeWrites container checked) σ) := by
  obtain ⟨hw, hr⟩ := run_apply_takes h
  have hstores := Proc.run_stores (apply X myDid) σ
  rw [hw] at hstores
  exact (exec_calm _ σ).trans (Prod.ext (congrArg some hr) hstores)

theorem run_apply_refuses {σ : Device} (h : Refuses X myDid σ) :
    ∃ why, (apply X myDid).runWrites σ = clearWrites ∧
      ((apply X myDid).run σ).1 = .ok (.refused why) := by
  unfold apply
  simp only [Proc.runWrites_bind, Proc.run_bind, Proc.run_attempt, Proc.runWrites_attempt,
    Proc.run_get, Proc.runWrites_get, List.nil_append]
  cases h with
  | tooLong v delivered long =>
    have hread : (σ.read .settings SETTINGS_ADOPT ADOPT_MAX : Result _) =
        .error (.bufferTooSmall v.length) := Stores.read_eq_error.mpr ⟨v, delivered, long, rfl⟩
    rw [hread]
    exact ⟨_, run_refuse _ _⟩
  | fails container why delivered check =>
    simp only [delivered, check]
    exact ⟨_, run_refuse _ _⟩
  | pinned container checked pin delivered checks held other =>
    simp only [delivered, checks, Proc.runWrites_bind, Proc.run_bind, run_storedPin,
      runWrites_storedPin, held, List.nil_append]
    by_cases hkey : pin.genesisPubkey = checked.pin.genesisPubkey
    · have hroster := other.resolve_left (not_not.mpr hkey)
      simp only [ne_eq, hkey, not_true_eq_false, if_false, hroster, if_true]
      exact ⟨_, run_refuse _ _⟩
    · simp only [ne_eq, hkey, not_false_eq_true, if_true]
      exact ⟨_, run_refuse _ _⟩

theorem run_apply_stuck {σ : Device} {e : Error} (h : Stuck X myDid σ e) :
    (apply X myDid).runWrites σ = [] ∧ ((apply X myDid).run σ).1 = .error e := by
  obtain ⟨container, checked, hread, hcheck, hpin⟩ := h
  unfold apply
  simp [hread, hcheck, run_storedPin, runWrites_storedPin, hpin]

theorem run_apply_nothing (X : Crates) (myDid : String) {σ : Device}
    (h : σ .settings SETTINGS_ADOPT = none) :
    (apply X myDid).runWrites σ = [] ∧ ((apply X myDid).run σ).1 = .ok .nothing := by
  have hread : (σ.read .settings SETTINGS_ADOPT ADOPT_MAX : Result _) = .ok none :=
    Stores.read_eq_none.mpr h
  unfold apply
  simp only [Proc.runWrites_bind, Proc.run_bind, Proc.run_attempt, Proc.runWrites_attempt,
    Proc.run_get, Proc.runWrites_get, hread]
  exact ⟨rfl, rfl⟩

/-- **What may be delivered**: an adoption to take, one to refuse, one whose pin cannot be read, or
none. -/
theorem delivery_cases (X : Crates) (myDid : String) (σ : Device) :
    (∃ container checked pinned, Takes X myDid σ container checked pinned) ∨
      Refuses X myDid σ ∨ σ .settings SETTINGS_ADOPT = none ∨ ∃ e, Stuck X myDid σ e := by
  cases hread : (σ.read .settings SETTINGS_ADOPT ADOPT_MAX : Result _) with
  | error e =>
    obtain ⟨v, hv, hlong, -⟩ := Stores.read_eq_error.mp hread
    exact Or.inr (Or.inl (.tooLong v hv hlong))
  | ok v =>
    cases v with
    | none => exact Or.inr (Or.inr (Or.inl (Stores.read_eq_none.mp hread)))
    | some container =>
      cases hcheck : checkStatement X container myDid with
      | error why => exact Or.inr (Or.inl (.fails container why hread hcheck))
      | ok checked =>
        cases hpin : pinIn σ with
        | error e => exact Or.inr (Or.inr (Or.inr ⟨e, container, checked, hread, hcheck, hpin⟩))
        | ok pinned =>
          by_cases hfollows : ∀ pin ∈ pinned, pin.genesisPubkey = checked.pin.genesisPubkey ∧
              pin.rosterVersion ≤ checked.pin.rosterVersion
          · exact Or.inl ⟨container, checked, pinned, hread, hcheck, hpin, hfollows⟩
          · push Not at hfollows
            obtain ⟨pin, hmem, hother⟩ := hfollows
            rw [Option.mem_def.mp hmem] at hpin
            refine Or.inr (Or.inl (.pinned container checked pin hread hcheck hpin ?_))
            by_cases hkey : pin.genesisPubkey = checked.pin.genesisPubkey
            · exact Or.inr (UInt32.not_le.mp (hother hkey))
            · exact Or.inl hkey

/-- **The cases of `apply`**: it takes the adoption, or clears it and refuses, or writes nothing. -/
theorem apply_cases (X : Crates) (myDid : String) (σ : Device) :
    (∃ container checked pinned, Takes X myDid σ container checked pinned) ∨
      (∃ why, (apply X myDid).runWrites σ = clearWrites ∧
        ((apply X myDid).run σ).1 = .ok (.refused why)) ∨
      ((apply X myDid).runWrites σ = [] ∧
        (((apply X myDid).run σ).1 = .ok .nothing ∧ σ .settings SETTINGS_ADOPT = none ∨
          ∃ e, ((apply X myDid).run σ).1 = .error e)) := by
  rcases delivery_cases X myDid σ with htakes | hrefuses | hnone | ⟨e, hstuck⟩
  · exact Or.inl htakes
  · exact Or.inr (Or.inl (run_apply_refuses hrefuses))
  · obtain ⟨hw, hr⟩ := run_apply_nothing X myDid hnone
    exact Or.inr (Or.inr ⟨hw, Or.inl ⟨hr, hnone⟩⟩)
  · obtain ⟨hw, hr⟩ := run_apply_stuck hstuck
    exact Or.inr (Or.inr ⟨hw, Or.inr ⟨e, hr⟩⟩)

/-- The outcomes of an adoption that is taken. -/
def Taking (o : Outcome) (owner : String) (roster : UInt32) (provisional : Bool) : Prop :=
  o = .adopted owner roster provisional ∨ o = .rehomed owner roster provisional

theorem taking_took {checked : Checked} {pinned : Option OwnerPin} {owner : String}
    {roster : UInt32} {provisional : Bool}
    (h : Taking (took checked pinned) owner roster provisional) :
    owner = checked.ownerDid ∧ roster = checked.pin.rosterVersion ∧ provisional = true := by
  unfold Taking took at h
  split_ifs at h <;> simp_all

theorem takes_of_taking {σ : Device} {o : Outcome} {owner : String} {roster : UInt32}
    {provisional : Bool} (ho : Taking o owner roster provisional)
    (h : ((apply X myDid).run σ).1 = .ok o) :
    ∃ container checked pinned, Takes X myDid σ container checked pinned ∧ o = took checked pinned := by
  rcases apply_cases X myDid σ with ht | ⟨why, -, hr⟩ | ⟨-, ⟨hr, -⟩ | ⟨e, hr⟩⟩
  · obtain ⟨container, checked, pinned, ht⟩ := ht
    have hr := (run_apply_takes ht).2
    rw [h] at hr
    exact ⟨container, checked, pinned, ht, Except.ok.inj hr⟩
  · rw [h] at hr
    cases Except.ok.inj hr
    rcases ho with ho | ho <;> cases ho
  · rw [h] at hr
    cases Except.ok.inj hr
    rcases ho with ho | ho <;> cases ho
  · rw [h] at hr
    cases hr

/-! ### The stores between two writes -/

/-- What the stores hold after the first `n` writes that take an adoption. -/
theorem take_state (container : Bytes) (checked : Checked) (n : ℕ) (σ : Device) :
    let τ := applyAll ((takeWrites container checked).take n) σ
    τ .identity KV_ADOPTION = (if 0 < n then some container else σ .identity KV_ADOPTION) ∧
      τ .identity KV_ADOPTION_KIND =
        (if 1 < n then some (asBytes KIND_MATA_STATEMENT) else σ .identity KV_ADOPTION_KIND) ∧
      τ .identity KV_OWNER_PIN =
        (if 2 < n then some (pinBytes checked.pin) else σ .identity KV_OWNER_PIN) ∧
      τ .identity KV_PIN_PROVISIONAL =
        (if 3 < n then some [1] else σ .identity KV_PIN_PROVISIONAL) ∧
      τ .settings SETTINGS_ADOPT = (if 4 < n then none else σ .settings SETTINGS_ADOPT) := by
  rcases n with _ | _ | _ | _ | _ | n <;>
    simp [takeWrites, Write.apply, Stores.set, KV_ADOPTION, KV_ADOPTION_KIND, KV_OWNER_PIN,
      KV_PIN_PROVISIONAL]

theorem taken_state (container : Bytes) (checked : Checked) (σ : Device) :
    let τ := applyAll (takeWrites container checked) σ
    τ .identity KV_ADOPTION = some container ∧
      τ .identity KV_ADOPTION_KIND = some (asBytes KIND_MATA_STATEMENT) ∧
      τ .identity KV_OWNER_PIN = some (pinBytes checked.pin) ∧
      τ .identity KV_PIN_PROVISIONAL = some [1] ∧ τ .settings SETTINGS_ADOPT = none :=
  take_state container checked 5 σ

theorem forget_state (n : ℕ) (σ : Device) :
    let τ := applyAll (forgetWrites.take n) σ
    τ .identity KV_ADOPTION = (if 0 < n then none else σ .identity KV_ADOPTION) ∧
      τ .identity KV_ADOPTION_KIND = (if 1 < n then none else σ .identity KV_ADOPTION_KIND) ∧
      τ .identity KV_PIN_PROVISIONAL = (if 2 < n then none else σ .identity KV_PIN_PROVISIONAL) ∧
      τ .identity KV_OWNER_PIN = (if 3 < n then none else σ .identity KV_OWNER_PIN) := by
  rcases n with _ | _ | _ | _ | n <;>
    simp [forgetWrites, Write.apply, Stores.set, KV_ADOPTION, KV_ADOPTION_KIND, KV_OWNER_PIN,
      KV_PIN_PROVISIONAL]

theorem clear_state (n : ℕ) (σ : Device) (k : String) :
    applyAll (clearWrites.take n) σ .identity k = σ .identity k :=
  applyAll_frame (fun w hw => by
    rw [clearWrites] at hw
    cases List.mem_singleton.mp (List.mem_of_mem_take hw)
    simp [Write.target]) σ

/-- The keys taking and forgetting write. -/
def ownKeys : List (Partition × String) :=
  [(.identity, KV_ADOPTION), (.identity, KV_ADOPTION_KIND), (.identity, KV_OWNER_PIN),
    (.identity, KV_PIN_PROVISIONAL), (.settings, SETTINGS_ADOPT)]

/-- The writes to those keys. -/
def ToOwnKeys (s : Partition) (k : String) (_ : Option Bytes) : Prop := (s, k) ∈ ownKeys

section Writes
variable {W : Partition → String → Option Bytes → Prop}

theorem writesIn_storedPin : WritesIn W storedPin := by
  refine WritesIn.procBind (WritesIn.get _ _ _) fun v => ?_
  cases v with
  | none => exact WritesIn.pure _
  | some v =>
    simp only
    split_ifs
    · exact WritesIn.procBind (WritesIn.ret _) fun pin => WritesIn.pure _
    · exact WritesIn.fail _

theorem writesIn_refuse (hremove : W .settings SETTINGS_ADOPT none) (why : String) :
    WritesIn W (refuse why) :=
  WritesIn.procBind (WritesIn.remove hremove) fun _ => WritesIn.pure _

theorem writesIn_take (hput : ∀ k v, (Partition.identity, k) ∈ ownKeys → W .identity k (some v))
    (hremove : W .settings SETTINGS_ADOPT none) (container : Bytes) (checked : Checked)
    (pinned : Option OwnerPin) : WritesIn W (take container checked pinned) := by
  refine WritesIn.procBind (WritesIn.put (hput _ _ (by simp [ownKeys]))) fun _ => ?_
  refine WritesIn.procBind (WritesIn.put (hput _ _ (by simp [ownKeys]))) fun _ => ?_
  refine WritesIn.procBind (WritesIn.ret _) fun _ => ?_
  refine WritesIn.procBind (WritesIn.put (hput _ _ (by simp [ownKeys]))) fun _ => ?_
  refine WritesIn.procBind (WritesIn.put (hput _ _ (by simp [ownKeys]))) fun _ => ?_
  refine WritesIn.procBind (WritesIn.remove hremove) fun _ => ?_
  split_ifs
  · exact WritesIn.pure _
  · exact WritesIn.pure _

theorem writesIn_apply_of (hput : ∀ k v, (Partition.identity, k) ∈ ownKeys → W .identity k (some v))
    (hremove : W .settings SETTINGS_ADOPT none) : WritesIn W (apply X myDid) := by
  refine WritesIn.procBind (WritesIn.attemptGet _ _ _) fun r => ?_
  split
  · exact WritesIn.pure _
  · exact writesIn_refuse hremove _
  · exact WritesIn.fail _
  · split
    · exact writesIn_refuse hremove _
    · refine WritesIn.procBind writesIn_storedPin fun pinned => ?_
      split
      · split_ifs
        · exact writesIn_refuse hremove _
        · exact writesIn_refuse hremove _
        · exact writesIn_take hput hremove _ _ _
      · exact writesIn_take hput hremove _ _ _

end Writes

theorem writesIn_apply (X : Crates) (myDid : String) : WritesIn ToOwnKeys (apply X myDid) :=
  writesIn_apply_of (fun _ _ hk => hk) (by simp [ToOwnKeys, ownKeys])

theorem writesIn_forget : WritesIn ToOwnKeys forget := by
  refine WritesIn.procBind writesIn_storedPin fun pinned => ?_
  refine WritesIn.procBind (WritesIn.remove (by simp [ToOwnKeys, ownKeys])) fun _ => ?_
  refine WritesIn.procBind (WritesIn.remove (by simp [ToOwnKeys, ownKeys])) fun _ => ?_
  refine WritesIn.procBind (WritesIn.remove (by simp [ToOwnKeys, ownKeys])) fun _ => ?_
  exact WritesIn.procBind (WritesIn.remove (by simp [ToOwnKeys, ownKeys])) fun _ => WritesIn.pure _

/-! ### Both are orderly -/

theorem orderly_refuse (why : String) : Orderly (refuse why) :=
  Orderly.bind (Orderly.remove _ _) fun _ => Orderly.pure _

theorem orderly_take (container : Bytes) (checked : Checked) (pinned : Option OwnerPin) :
    Orderly (take container checked pinned) := by
  refine Orderly.bind (Orderly.put _ _ _) fun _ => Orderly.bind (Orderly.put _ _ _) fun _ => ?_
  refine Orderly.bind (Orderly.ret _) fun _ => Orderly.bind (Orderly.put _ _ _) fun _ => ?_
  refine Orderly.bind (Orderly.put _ _ _) fun _ => Orderly.bind (Orderly.remove _ _) fun _ => ?_
  split_ifs
  · exact Orderly.pure _
  · exact Orderly.pure _

theorem orderly_apply (X : Crates) (myDid : String) : Orderly (apply X myDid) := by
  refine Orderly.bind (Orderly.attemptGet _ _ _) fun r => ?_
  split
  · exact Orderly.pure _
  · exact orderly_refuse _
  · exact Orderly.fail _
  · split
    · exact orderly_refuse _
    · refine Orderly.bind orderly_storedPin fun pinned => ?_
      split
      · split_ifs
        · exact orderly_refuse _
        · exact orderly_refuse _
        · exact orderly_take _ _ _
      · exact orderly_take _ _ _

theorem orderly_forget : Orderly forget := by
  refine Orderly.bind orderly_storedPin fun pinned => Orderly.bind (Orderly.remove _ _) fun _ => ?_
  refine Orderly.bind (Orderly.remove _ _) fun _ => Orderly.bind (Orderly.remove _ _) fun _ => ?_
  exact Orderly.bind (Orderly.remove _ _) fun _ => Orderly.pure _

/-! ### Calls -/

/-- The two operations. -/
inductive Op where
  | apply
  | forget

/-- A call: the settings it finds, and which of its writes fail or are cut. Its reads are done. -/
structure Call where
  op : Op
  settings : String → Option Bytes
  faults : KvFaults
  readsDone : faults.ReadsDone

/-- The device with other settings. -/
def withSettings (settings : String → Option Bytes) (σ : Device) : Device
  | .settings => settings
  | .identity => σ .identity

/-- The device a call leaves, whether it returns or is cut. -/
def Call.effect (X : Crates) (myDid : String) (c : Call) (σ : Device) : Device :=
  match c.op with
  | .apply => (Prog.exec (apply X myDid) c.faults (withSettings c.settings σ)).2
  | .forget => (Prog.exec forget c.faults (withSettings c.settings σ)).2

/-- The device after several calls. -/
def afterCalls (X : Crates) (myDid : String) (calls : List Call) (σ : Device) : Device :=
  calls.foldl (fun τ c => c.effect X myDid τ) σ

@[simp] theorem afterCalls_singleton (c : Call) (σ : Device) :
    afterCalls X myDid [c] σ = c.effect X myDid σ := rfl

theorem afterCalls_succ {calls : List Call} {i : ℕ} (h : i < calls.length) (σ : Device) :
    afterCalls X myDid (calls.take (i + 1)) σ =
      calls[i].effect X myDid (afterCalls X myDid (calls.take i) σ) := foldl_take_succ h

/-- How many of `m` writes a call makes before one is not done. -/
def Call.made (c : Call) (m : ℕ) : ℕ := Faults.lead c.faults.write m

/-- The call takes an adoption. -/
def Call.TakesFrom (X : Crates) (myDid : String) (c : Call) (σ : Device) (container : Bytes)
    (checked : Checked) : Prop :=
  c.op = .apply ∧ ∃ pinned, Takes X myDid (withSettings c.settings σ) container checked pinned

theorem pinIn_withSettings (settings : String → Option Bytes) (σ : Device) :
    pinIn (withSettings settings σ) = pinIn σ := rfl

theorem applyAll_withSettings (settings : String → Option Bytes) (σ : Device)
    (ws : List (Write Partition String UInt8)) :
    applyAll ws (withSettings settings σ) .identity = applyAll ws σ .identity :=
  applyAll_congr (by rfl) ws

theorem effect_apply (X : Crates) (myDid : String) {c : Call} (hop : c.op = .apply) (σ : Device) :
    let start := withSettings c.settings σ
    c.effect X myDid σ = applyAll (((apply X myDid).runWrites start).take
      (c.made ((apply X myDid).runWrites start).length)) start := by
  unfold Call.effect
  rw [hop]
  exact exec_cutShort (orderly_apply X myDid) c.readsDone _

theorem effect_forget (X : Crates) (myDid : String) {c : Call} (hop : c.op = .forget)
    (σ : Device) :
    let start := withSettings c.settings σ
    c.effect X myDid σ =
      applyAll ((forget.runWrites start).take (c.made (forget.runWrites start).length)) start := by
  unfold Call.effect
  rw [hop]
  exact exec_cutShort orderly_forget c.readsDone _

/-- A call that takes an adoption makes the first of its writes. -/
theorem effect_of_takes {c : Call} {σ : Device} {container : Bytes} {checked : Checked}
    (h : c.TakesFrom X myDid σ container checked) :
    c.effect X myDid σ .identity =
      applyAll ((takeWrites container checked).take (c.made 5)) σ .identity := by
  obtain ⟨hop, pinned, ht⟩ := h
  have heff := effect_apply X myDid hop σ
  simp only [(run_apply_takes ht).1] at heff
  rw [heff]
  exact applyAll_withSettings _ _ _

theorem effect_of_forget {c : Call} {σ : Device} (hop : c.op = .forget) {pinned : Option OwnerPin}
    (hpin : pinIn σ = .ok pinned) :
    c.effect X myDid σ .identity = applyAll (forgetWrites.take (c.made 4)) σ .identity := by
  have heff := effect_forget X myDid hop σ
  rcases run_forget (withSettings c.settings σ) with ⟨pinned', -, hw, -⟩ | ⟨e, he, -⟩
  · simp only [hw] at heff
    rw [heff]
    exact applyAll_withSettings _ _ _
  · rw [pinIn_withSettings, hpin] at he
    cases he

/-- **What a call does to the identity store**: the first writes of taking an adoption, the first
removals of forgetting the owner, or nothing. -/
theorem effect_cases (X : Crates) (myDid : String) (c : Call) (σ : Device) :
    (∃ container checked, c.TakesFrom X myDid σ container checked ∧
        c.effect X myDid σ .identity =
          applyAll ((takeWrites container checked).take (c.made 5)) σ .identity) ∨
      (c.op = .forget ∧ (∃ pinned, pinIn σ = .ok pinned) ∧
        c.effect X myDid σ .identity = applyAll (forgetWrites.take (c.made 4)) σ .identity) ∨
      c.effect X myDid σ .identity = σ .identity := by
  by_cases htakes : ∃ container checked, c.TakesFrom X myDid σ container checked
  · obtain ⟨container, checked, ht⟩ := htakes
    exact Or.inl ⟨container, checked, ht, effect_of_takes ht⟩
  right
  cases hop : c.op with
  | apply =>
    right
    have heff := effect_apply X myDid hop σ
    rcases apply_cases X myDid (withSettings c.settings σ) with
      ⟨container, checked, pinned, h⟩ | ⟨why, hw, -⟩ | ⟨hw, -⟩
    · exact (htakes ⟨container, checked, hop, pinned, h⟩).elim
    · funext k
      simp only [heff, hw, clear_state]
      rfl
    · simp only [heff, hw, List.take_nil, applyAll_nil]
      rfl
  | forget =>
    cases hpin : pinIn σ with
    | ok pinned => exact Or.inl ⟨rfl, ⟨pinned, rfl⟩, effect_of_forget hop hpin⟩
    | error e =>
      have heff := effect_forget X myDid hop σ
      rcases run_forget (withSettings c.settings σ) with ⟨pinned, hok, -⟩ | ⟨e', -, hw, -⟩
      · rw [pinIn_withSettings, hpin] at hok
        cases hok
      · simp only [heff, hw, List.take_nil, applyAll_nil]
        exact Or.inr rfl

end EspMid.Adopting.Plan
