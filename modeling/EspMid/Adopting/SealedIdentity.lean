import EspMid.Adopting.Presented
import EspMid.Keeping.SealedStore

/-! # Adopting into a sealed identity store

`apply` writes containers of up to `ADOPT_MAX` bytes into the identity store, and a sealed store
refuses what is longer than `MAX_VALUE`. Where the delivery is to be taken, the boot over a sealed
store therefore does what the boot over a plain one does exactly if the container is that short
(`works_iff`). A longer one is refused at the first write: the boot ends in an error, stores
nothing, and leaves the delivery in the settings (`long_delivery_stays`).

The parser of JSON is a parameter here. With the real one a container that passes the check has 475
bytes at the least, so none is that short, and only deliveries that are to be refused, such as that
of `works_pinnedElsewhere`, end as over a plain store. -/

namespace EspMid.Adopting.SealedIdentity

open EspMid.Lib EspMid.Lib.StoreProg
open EspMid.Model.Core EspMid.Model.Identity EspMid.Model.Envelope EspMid.Model.SettingsAdoption
open EspMid.Model.Seal
open EspMid.Adopting.Plan EspMid.Adopting.Presented EspMid.Keeping.SealedStore

variable {X : Crates} {A : Aes256Gcm} {myDid : String} {k : Array8 32} {σ τ : Device}
  {F : KvFaults}

/-- The identity store sealed under `k`, beside the settings as they are. -/
abbrev sealedIdentity (A : Aes256Gcm) (k : Array8 32) : Layer Partition String UInt8 Error :=
  SealedKv.layer A ⟨.identity, some k⟩

/-- Reads and writes are done, and the random source gives what is asked of it. -/
structure Reliable (F : KvFaults) : Prop where
  steady : F.Steady
  drawn : ∀ i n, Drawn n (F.entropy i n)

/-- `apply` with the sealed identity store. -/
def sealedApply (A : Aes256Gcm) (k : Array8 32) (X : Crates) (myDid : String) :
    Kv Partition Outcome := (apply X myDid).over (sealedIdentity A k)

/-- `stored` with the sealed identity store. -/
def sealedStored (A : Aes256Gcm) (k : Array8 32) (X : Crates) (myDid : String) :
    Kv Partition (Option Stored) := (stored X myDid).over (sealedIdentity A k)

/-! ### The two boots -/

/-- Where the sealed store takes every write, the boot over it ends as the plain one. -/
theorem exec_sealedApply (hA : A.Opens) (hE : A.Encrypts) (hF : Reliable F)
    (h : Represents A .identity k τ σ)
    (hw : ∀ w ∈ (apply X myDid).runWrites σ, Sealable .identity w) :
    (Prog.exec (sealedApply A k X myDid) F τ).1 = some ((apply X myDid).run σ).1 ∧
      Represents A .identity k (Prog.exec (sealedApply A k X myDid) F τ).2
        ((apply X myDid).run σ).2 := by
  have hall : ∀ w ∈ Prog.runWrites (apply X myDid) σ, Sealable .identity w := hw
  have hover := over_ensures (layer_refines hA hE .identity k) (orderly_apply X myDid).drawless h
    hall
  obtain ⟨r, hr, hrun, hR⟩ := exec_of_ensures hover F hF.steady hF.drawn
  exact ⟨hr.trans (congrArg some hrun), hR⟩

theorem exec_sealedStored (X : Crates) (myDid : String) (hA : A.Opens) (hE : A.Encrypts)
    (hF : Reliable F) (h : Represents A .identity k τ σ) :
    (Prog.exec (sealedStored A k X myDid) F τ).1 = some ((stored X myDid).run σ).1 := by
  have hover := over_reads (layer_refines hA hE .identity k) (orderly_stored X myDid).drawless
    (writesIn_stored X myDid) h
  obtain ⟨r, hr, hrun, -⟩ := exec_of_ensures hover F hF.steady hF.drawn
  exact hr.trans (congrArg some hrun)

theorem exec_plainApply (X : Crates) (myDid : String) (hF : Reliable F) (σ : Device) :
    Prog.exec (apply X myDid) F σ = (some ((apply X myDid).run σ).1, ((apply X myDid).run σ).2) :=
  exec_steady (orderly_apply X myDid).drawless hF.steady σ

theorem exec_plainStored (X : Crates) (myDid : String) (hF : Reliable F) (σ : Device) :
    (Prog.exec (stored X myDid) F σ).1 = some ((stored X myDid).run σ).1 :=
  congrArg Prod.fst (exec_steady (orderly_stored X myDid).drawless hF.steady σ)

/-- Where the container to be taken is too long, the first write is refused, and nothing is done. -/
theorem exec_sealedApply_long (hA : A.Opens) (hE : A.Encrypts) (hF : Reliable F)
    (h : Represents A .identity k τ σ) {container : Bytes} {checked : Checked}
    {pinned : Option OwnerPin} (ht : Takes X myDid σ container checked pinned)
    (hlong : MAX_VALUE < container.length) :
    (Prog.exec (sealedApply A k X myDid) F τ).1 = some (.error .unsupported) ∧
      Represents A .identity k (Prog.exec (sealedApply A k X myDid) F τ).2 σ := by
  have hfirst : Prog.runWrites (apply X myDid) σ =
      [] ++ .put .identity KV_ADOPTION container :: (takeWrites container checked).tail :=
    (run_apply_takes ht).1
  have hover := over_refused (layer_refines hA hE .identity k) (orderly_apply X myDid).failStop
    (orderly_apply X myDid).drawless (fun hR => layer_refuses hlong hR) h hfirst
    fun w hw => absurd hw List.not_mem_nil
  obtain ⟨r, hr, hrun, hR⟩ := exec_of_ensures hover F hF.steady hF.drawn
  exact ⟨hr.trans (congrArg some hrun), hR⟩

theorem settings_eq (h : Represents A .identity k τ σ) : τ .settings = σ .settings :=
  h.others .settings (by decide)

/-! ### What is short enough to be sealed -/

theorem sealable_clearWrites : ∀ w ∈ clearWrites, Sealable .identity w := by
  unfold clearWrites
  simp [Sealable]

theorem sealable_takeWrites {container : Bytes} (checked : Checked)
    (h : container.length ≤ MAX_VALUE) :
    ∀ w ∈ takeWrites container checked, Sealable .identity w := by
  have hpin : (pinBytes checked.pin).length ≤ MAX_VALUE := by
    rw [length_pinBytes]
    decide
  unfold takeWrites
  simp only [List.forall_mem_cons, Sealable, forall_const]
  refine ⟨⟨h, ?_⟩, ⟨?_, ?_⟩, ⟨hpin, ?_⟩, ⟨?_, ?_⟩, True.intro, fun w hw =>
    absurd hw List.not_mem_nil⟩
  all_goals decide +kernel

/-! ### When adoption works -/

/-- The boot over the sealed store has the outcome of the boot over the plain one; `stored` then
presents what it presents there, the container if it was taken; no delivery is left. -/
structure Works (A : Aes256Gcm) (k : Array8 32) (X : Crates) (myDid : String) (container : Bytes)
    (F G : KvFaults) (τ σ : Device) : Prop where
  outcome : (Prog.exec (sealedApply A k X myDid) F τ).1 = (Prog.exec (apply X myDid) F σ).1
  presents : (Prog.exec (sealedStored A k X myDid) G
      (Prog.exec (sealedApply A k X myDid) F τ).2).1 =
    (Prog.exec (stored X myDid) G (Prog.exec (apply X myDid) F σ).2).1
  taken : ∀ o owner roster provisional,
    (Prog.exec (sealedApply A k X myDid) F τ).1 = some (.ok o) →
      Taking o owner roster provisional →
        ∃ st, (Prog.exec (sealedStored A k X myDid) G
          (Prog.exec (sealedApply A k X myDid) F τ).2).1 = some (.ok (some st)) ∧
          st.bytes = container
  cleared : (Prog.exec (sealedApply A k X myDid) F τ).2 .settings SETTINGS_ADOPT = none

/-- The stored pin can be read, and the container is short enough to be sealed, or refused. -/
structure Storable (σ : Device) (container : Bytes) (checked : Checked) : Prop where
  readable : ∀ v, σ .identity KV_OWNER_PIN = some v → v.length = OwnerPin.LEN
  short : container.length ≤ MAX_VALUE ∨ ∃ pin, σ .identity KV_OWNER_PIN = some (pinBytes pin) ∧
    (pin.genesisPubkey ≠ checked.pin.genesisPubkey ∨
      checked.pin.rosterVersion < pin.rosterVersion)

/-- A boot whose writes are all sealed works, if it clears the settings. -/
theorem works_of_sealable {G : KvFaults} {container : Bytes} (hA : A.Opens) (hE : A.Encrypts)
    (hF : Reliable F) (hG : Reliable G) (h : Represents A .identity k τ σ)
    (hdelivered : σ .settings SETTINGS_ADOPT = some container)
    (hw : ∀ w ∈ (apply X myDid).runWrites σ, Sealable .identity w)
    (hcleared : applyAll ((apply X myDid).runWrites σ) σ .settings SETTINGS_ADOPT = none) :
    Works A k X myDid container F G τ σ := by
  obtain ⟨hres, hR⟩ := exec_sealedApply hA hE hF h hw
  have hplain := exec_plainApply X myDid hF σ
  have hstored := exec_sealedStored X myDid hA hE hG hR
  rw [← Proc.run_stores] at hcleared
  refine ⟨?_, ?_, ?_, ?_⟩
  · rw [hres, hplain]
  · rw [hstored, hplain, exec_plainStored X myDid hG]
  · intro o owner roster provisional ho htaking
    rw [hres] at ho
    obtain ⟨container', checked', pinned, ht, -⟩ := takes_of_taking htaking (Option.some.inj ho)
    obtain ⟨hdelivered', -⟩ := Stores.read_eq_some.mp ht.delivered
    have hsame : container' = container := Option.some.inj (hdelivered'.symm.trans hdelivered)
    have hpresents := presents_taken ht
    rw [← (run_apply_takes ht).1, ← Proc.run_stores] at hpresents
    have hcalm := exec_calm (stored X myDid) ((apply X myDid).run σ).2
    exact ⟨_, hstored.trans ((congrArg Prod.fst hcalm).symm.trans hpresents), hsame⟩
  · rw [settings_eq hR]
    exact hcleared

/-- **When adoption works on a sealed identity store.** -/
theorem works_iff (X : Crates) (A : Aes256Gcm) (hA : A.Opens) (hE : A.Encrypts) (myDid : String)
    (k : Array8 32) (F G : KvFaults) (hF : Reliable F) (hG : Reliable G) (τ σ : Device)
    (h : Represents A .identity k τ σ) (container : Bytes) (checked : Checked)
    (hdelivered : τ .settings SETTINGS_ADOPT = some container)
    (hlen : container.length ≤ ADOPT_MAX)
    (hcheck : checkStatement X container myDid = .ok checked) :
    Works A k X myDid container F G τ σ ↔ Storable σ container checked := by
  rw [settings_eq h] at hdelivered
  have hread := Stores.read_eq_some (ε := Error).mpr ⟨hdelivered, hlen⟩
  -- what is delivered is this container, and it passes the check
  have hthis : ∀ {container' checked'},
      σ.read .settings SETTINGS_ADOPT ADOPT_MAX = (.ok (some container') : Result _) →
        checkStatement X container' myDid = .ok checked' →
          container' = container ∧ checked' = checked := by
    intro container' checked' hread' hcheck'
    rw [hread] at hread'
    cases hread'
    rw [hcheck] at hcheck'
    cases hcheck'
    exact ⟨rfl, rfl⟩
  rcases delivery_cases X myDid σ with ⟨container', checked', pinned, ht⟩ | hr | hnone | ⟨e, hs⟩
  · obtain ⟨rfl, rfl⟩ := hthis ht.delivered ht.checks
    have hreadable := pinIn_eq_ok.mp ⟨pinned, ht.held⟩
    by_cases hshort : container'.length ≤ MAX_VALUE
    · refine iff_of_true (works_of_sealable hA hE hF hG h hdelivered ?_ ?_)
        ⟨hreadable, Or.inl hshort⟩
      · rw [(run_apply_takes ht).1]
        exact sealable_takeWrites checked' hshort
      · rw [(run_apply_takes ht).1]
        exact (taken_state container' checked' σ).2.2.2.2
    · refine iff_of_false (fun hworks => ?_) fun hstorable => ?_
      · -- over the plain store it is taken, over the sealed one the first write is refused
        have hout := hworks.outcome
        rw [(exec_sealedApply_long hA hE hF h ht (not_le.mp hshort)).1,
          exec_plainApply X myDid hF, (run_apply_takes ht).2] at hout
        cases Option.some.inj hout
      · obtain ⟨pin, hpin, hother⟩ := hstorable.short.resolve_left hshort
        have hheld := pinIn_of_some hpin
        rw [ht.held] at hheld
        obtain ⟨hkey, hroster⟩ := ht.follows pin (Except.ok.inj hheld)
        exact hother.elim (fun hne => hne hkey) fun hlt => absurd hroster (UInt32.not_le.mpr hlt)
  · have hstorable : Storable σ container checked := by
      cases hr with
      | tooLong v delivered long =>
        rw [hdelivered] at delivered
        cases delivered
        exact absurd hlen (not_le.mpr long)
      | fails container' why delivered check =>
        rw [hread] at delivered
        cases delivered
        rw [hcheck] at check
        cases check
      | pinned container' checked' pin delivered checks held other =>
        obtain ⟨rfl, rfl⟩ := hthis delivered checks
        exact ⟨pinIn_eq_ok.mp ⟨_, held⟩, Or.inr ⟨pin, pinIn_eq_some.mp held, other⟩⟩
    obtain ⟨why, hw, -⟩ := run_apply_refuses hr
    refine iff_of_true (works_of_sealable hA hE hF hG h hdelivered ?_ ?_) hstorable
    · rw [hw]
      exact sealable_clearWrites
    · rw [hw]
      simp [clearWrites, Write.apply]
  · rw [hdelivered] at hnone
    cases hnone
  · refine iff_of_false (fun hworks => ?_) fun hstorable => ?_
    · -- nothing is written, so the delivery is still there
      obtain ⟨hw, -⟩ := run_apply_stuck hs
      obtain ⟨-, hR⟩ := exec_sealedApply hA hE hF h fun w hmem =>
        absurd (hw ▸ hmem) List.not_mem_nil
      have hcleared := hworks.cleared
      rw [settings_eq hR, Proc.run_stores, hw, applyAll_nil, hdelivered] at hcleared
      cases hcleared
    · obtain ⟨-, -, -, -, hpin⟩ := hs
      obtain ⟨pinned, hok⟩ := pinIn_eq_ok.mpr hstorable.readable
      rw [hpin] at hok
      cases hok

/-! ### The delivery, over a sealed store -/

theorem reliable_calm : Reliable Faults.calm :=
  ⟨⟨fun _ => rfl, fun _ => rfl⟩, fun _ _ => ⟨_, rfl⟩⟩

/-- A device pinned to another owner, to which the delivery is made. -/
def pinnedElsewhere : Device := withSettings offer fun _ key =>
  if key = KV_OWNER_PIN then
    some (pinBytes { genesisPubkey := compressedPoint thirdKey, rosterVersion := 1 })
  else none

/-- It refuses the delivery, over a sealed store as over a plain one. -/
theorem works_pinnedElsewhere :
    Works cipher sealKey delivery deviceDid container Faults.calm Faults.calm pinnedElsewhere
      pinnedElsewhere := by
  have hclear : ∀ key v, pinnedElsewhere .identity key = some v → startsWithMagic v = false := by
    intro key v h
    have hv : (if key = KV_OWNER_PIN then
        some (pinBytes { genesisPubkey := compressedPoint thirdKey, rosterVersion := 1 })
      else none) = some v := h
    split_ifs at hv
    cases hv
    decide +kernel
  refine (works_iff delivery cipher cipher_opens cipher_encrypts deviceDid sealKey Faults.calm
    Faults.calm reliable_calm reliable_calm pinnedElsewhere pinnedElsewhere
    (represents_clear hclear) container delivered rfl (by rw [length_container]; decide)
    check_delivery).mpr ⟨fun v hv => ?_, Or.inr ⟨_, rfl, Or.inl (by decide +kernel)⟩⟩
  cases hv
  exact length_pinBytes _

/-- **The defect.** A fresh device takes the delivery into a plain store; over a sealed one the boot
ends in an error, and the delivery stays. -/
theorem long_delivery_stays :
    (Prog.exec (apply delivery deviceDid) Faults.calm (withSettings offer fresh)).1 =
        some (.ok (.adopted ownerDid 3 true)) ∧
      (Prog.exec (sealedApply cipher sealKey delivery deviceDid) Faults.calm
        (withSettings offer fresh)).1 = some (.error .unsupported) ∧
      (Prog.exec (sealedApply cipher sealKey delivery deviceDid) Faults.calm
        (withSettings offer fresh)).2 .settings SETTINGS_ADOPT = some container := by
  have hclear : Represents cipher .identity sealKey (withSettings offer fresh)
      (withSettings offer fresh) := represents_clear fun key v h => by cases h
  obtain ⟨hres, hR⟩ := exec_sealedApply_long cipher_opens cipher_encrypts reliable_calm hclear
    takes_delivery (by rw [length_container]; decide)
  refine ⟨?_, hres, ?_⟩
  · rw [exec_plainApply _ _ reliable_calm, (run_apply_takes takes_delivery).2]
    rfl
  · rw [settings_eq hR]
    rfl

end EspMid.Adopting.SealedIdentity
