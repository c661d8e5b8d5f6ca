import EspMid.Adopting.Plan
import EspMid.Keeping.CachedLoad

/-! # One device, one identity

Whatever a device does with its identity store (loading its key, through the cache or not,
generating one where there is none, signing, taking and forgetting adoptions), and whatever reads,
writes and draws fail: the stored secret, once there, stays as it is, and every key handed to the
caller is the stored one. The invariant is that the public-key entry is genuine for the secret that
is stored, or for any while none is (`Sound`). -/

namespace EspMid.Keeping.DeviceIdentity

open EspMid.Lib EspMid.Lib.StoreProg EspMid.Lib.Runs
open EspMid.Model.Core EspMid.Model.Identity EspMid.Model.SettingsAdoption EspMid.Model.Key
open EspMid.Adopting.Plan (Device withSettings ToOwnKeys ownKeys writesIn_apply writesIn_forget)
open EspMid.Keeping.Entries EspMid.Keeping.CachedLoad

variable {X : Crates} {σ τ : Device}

/-- The public-key entry is genuine for the stored secret, or for every secret while none is stored.
-/
def Sound (X : Crates) (σ : Device) : Prop :=
  ∀ scalar, σ .identity DeviceKey.KV_KEY = none ∨
      σ .identity DeviceKey.KV_KEY = some (scalarToRepr scalar).toList →
    Genuine X scalar (σ .identity DeviceKey.KV_PUB)

/-- From `σ` to `τ` the store stays sound, and a stored secret stays. -/
def Keeps (X : Crates) (σ τ : Device) : Prop :=
  Sound X τ ∧ ∀ v, σ .identity DeviceKey.KV_KEY = some v → τ .identity DeviceKey.KV_KEY = some v

/-- The store holds the key's secret, and its public key is the secret's. -/
def Holds (τ : Device) (key : DeviceKey X) : Prop :=
  τ .identity DeviceKey.KV_KEY = some key.secretBytes.toList ∧
    key.publicKey = X.fromSecretScalar key.secret

theorem KV_PUB_ne_KV_KEY : DeviceKey.KV_PUB ≠ DeviceKey.KV_KEY := by decide

/-! ### What the writes do -/

theorem Keeps.refl (h : Sound X σ) : Keeps X σ σ := ⟨h, fun _ hv => hv⟩

theorem keeps_set_pub (scalar : Scalar)
    (hkey : τ .identity DeviceKey.KV_KEY = some (scalarToRepr scalar).toList)
    (h : ∀ v, σ .identity DeviceKey.KV_KEY = some v → τ .identity DeviceKey.KV_KEY = some v) :
    Keeps X σ (τ.set .identity DeviceKey.KV_PUB (some (ownEntry X scalar))) := by
  have hsame : τ.set .identity DeviceKey.KV_PUB (some (ownEntry X scalar)) .identity
      DeviceKey.KV_KEY = τ .identity DeviceKey.KV_KEY := Stores.set_of_key_ne KV_PUB_ne_KV_KEY.symm
  refine ⟨fun scalar' hstored => ?_, fun v hv => hsame.trans (h v hv)⟩
  rw [hsame, hkey] at hstored
  rcases hstored with hnone | hsome
  · cases hnone
  · have hscalar := scalarToRepr_injective (List.Vector.toList_injective (Option.some.inj hsome))
    subst hscalar
    rw [Stores.set_self]
    exact genuine_ownEntry X scalar

theorem keeps_set_key (h : Sound X σ) (hnone : σ .identity DeviceKey.KV_KEY = none) (v : Bytes) :
    Keeps X σ (σ.set .identity DeviceKey.KV_KEY (some v)) := by
  have hsame : σ.set .identity DeviceKey.KV_KEY (some v) .identity DeviceKey.KV_PUB =
      σ .identity DeviceKey.KV_PUB := Stores.set_of_key_ne KV_PUB_ne_KV_KEY
  refine ⟨fun scalar _ => ?_, fun w hw => ?_⟩
  · rw [hsame]
    exact h scalar (Or.inl hnone)
  · rw [hnone] at hw
    cases hw

/-- Leaving the secret, and the public-key entry but for one of another length. -/
theorem keeps_of_frame (h : Sound X σ)
    (hkey : τ .identity DeviceKey.KV_KEY = σ .identity DeviceKey.KV_KEY)
    (hpub : τ .identity DeviceKey.KV_PUB = σ .identity DeviceKey.KV_PUB ∨
      ∀ e ∈ τ .identity DeviceKey.KV_PUB, e.length ≠ 97) : Keeps X σ τ := by
  refine ⟨fun scalar hstored => ?_, fun v hv => hkey.trans hv⟩
  rw [hkey] at hstored
  rcases hpub with hsame | hlen
  · rw [hsame]
    exact h scalar hstored
  · exact fun e he htag => absurd htag.1 (hlen e he)

/-! ### Loading and generating, under every fault -/

/-- What a call leaves and hands to the caller. -/
structure CallPost (X : Crates) (σ : Device) (r : Result (Option (DeviceKey X))) (τ : Device) :
    Prop where
  keeps : Keeps X σ τ
  holds : ∀ key, r = .ok (some key) → Holds τ key

/-- What a load leaves and hands to the caller: nothing only where nothing is stored. -/
structure LoadPost (X : Crates) (σ : Device) (r : Result (Option (DeviceKey X))) (τ : Device) :
    Prop extends CallPost X σ r τ where
  absent : r = .ok none → τ = σ ∧ σ .identity DeviceKey.KV_KEY = none

/-- What loading or generating leaves and hands to the caller. -/
structure KeyPost (X : Crates) (σ : Device) (r : Result (DeviceKey X)) (τ : Device) : Prop where
  keeps : Keeps X σ τ
  holds : ∀ key, r = .ok key → Holds τ key

theorem keyPost_error (h : Keeps X σ τ) (e : Error) : KeyPost X σ (.error e) τ :=
  ⟨h, fun _ hk => by cases hk⟩

theorem keyPost_key {key : DeviceKey X} (hkeeps : Keeps X σ τ) (h : Holds τ key) :
    KeyPost X σ (.ok key) τ := by
  refine ⟨hkeeps, fun key' hk => ?_⟩
  cases hk
  exact h

theorem loadPost_loaded (h : Sound X σ) (deviceId : String) (F : KvFaults) :
    LoadPost X σ (loaded X deviceId (σ.answer F .identity DeviceKey.KV_KEY 32)) σ where
  keeps := Keeps.refl h
  holds := by
    intro key hk
    obtain ⟨scalar, id, hanswer, rfl⟩ := loaded_eq_key hk
    exact ⟨Stores.answer_eq_ok hanswer, rfl⟩
  absent hnone := ⟨rfl, Stores.answer_eq_ok (loaded_eq_none hnone)⟩

theorem wp_load (h : Sound X σ) (deviceId : String) :
    Prog.wp (DeviceKey.load .identity deviceId : Kv Partition (Option (DeviceKey X)))
      (LoadPost X σ) (Keeps X σ) σ := by
  refine wp_of_exec fun F => ?_
  rw [exec_load]
  refine ⟨fun r hr => ?_, fun hcut => by cases hcut⟩
  cases hr
  exact loadPost_loaded h deviceId F

theorem wp_loadCached (h : Sound X σ) (deviceId : String) :
    Prog.wp (DeviceKey.loadCached .identity deviceId : Kv Partition (Option (DeviceKey X)))
      (LoadPost X σ) (Keeps X σ) σ := by
  refine wp_of_exec fun F => ?_
  have hpost := loadPost_loaded h deviceId F
  rcases exec_loadCached (X := X) Partition.identity deviceId F σ with
    ⟨hexec, -⟩ | ⟨scalar, id, hanswer, hload, hexec⟩
  · rw [hexec]
    refine ⟨fun r hr => ?_, fun hcut => by cases hcut⟩
    cases hr
    exact hpost
  · have hkey : σ .identity DeviceKey.KV_KEY = some (scalarToRepr scalar).toList :=
      Stores.answer_eq_ok hanswer
    obtain ⟨hvalue, hstores, -⟩ := exec_remember (X := X) (h scalar (Or.inr hkey)) id F.tickRead
    rw [← hexec] at hvalue hstores
    generalize Prog.exec (DeviceKey.loadCached .identity deviceId :
      Kv Partition (Option (DeviceKey X))) F σ = out at hvalue hstores ⊢
    obtain ⟨r, τ⟩ := out
    have hkeeps : Keeps X σ τ := by
      rcases hstores with rfl | rfl
      · exact Keeps.refl h
      · exact keeps_set_pub scalar hkey fun _ hv => hv
    refine ⟨fun a ha => ?_, fun _ => hkeeps⟩
    rcases hvalue with hvalue | ⟨-, hvalue⟩
    · cases ha.symm.trans hvalue
      refine ⟨⟨hkeeps, fun key hk => ?_⟩, fun hk => by cases hk⟩
      cases hk
      exact ⟨hkeeps.2 _ hkey, rfl⟩
    · cases ha.symm.trans hvalue

theorem wp_generateLoop (id : DeviceId) (C : Device → Prop) (n : ℕ) :
    Prog.wp (DeviceKey.generateLoop id n : Kv Partition (DeviceKey X))
      (fun r τ => τ = σ ∧ ∀ key, r = .ok key → key.publicKey = X.fromSecretScalar key.secret)
      C σ := by
  induction n with
  | zero => exact ⟨rfl, fun _ hk => by cases hk⟩
  | succ n ih =>
    refine (wp_procBind _ _ _ _ _).mpr fun r => ⟨fun secret _ => ?_, fun e _ => ⟨rfl, by simp⟩⟩
    unfold derive
    cases scalarFromRepr secret with
    | none => exact ih
    | some scalar =>
      refine ⟨rfl, fun key hk => ?_⟩
      cases hk
      rfl

/-- Whatever is drawn, the key generated is the key of its secret, and nothing is written. -/
theorem wp_generate (deviceId : String) (C : Device → Prop) :
    Prog.wp (DeviceKey.generate deviceId : Kv Partition (DeviceKey X))
      (fun r τ => τ = σ ∧ ∀ key, r = .ok key → key.publicKey = X.fromSecretScalar key.secret)
      C σ := by
  refine (wp_procBind _ _ _ _ _).mpr ⟨fun id _ => ?_, fun e _ => ⟨rfl, by simp⟩⟩
  exact wp_generateLoop id C _

/-- Where nothing is stored, storing a generated key. What follows the store is `rest`. -/
theorem wp_storeKey (h : Sound X σ) (hnone : σ .identity DeviceKey.KV_KEY = none)
    {key : DeviceKey X} (hkey : key.publicKey = X.fromSecretScalar key.secret)
    {rest : Kv Partition (DeviceKey X)}
    (hrest : ∀ τ, Keeps X σ τ → Holds τ key → Prog.wp rest (KeyPost X σ) (Keeps X σ) τ) :
    Prog.wp (key.store .identity >>= fun _ => rest : Kv Partition (DeviceKey X)) (KeyPost X σ)
      (Keeps X σ) σ := by
  refine (wp_procBind _ _ _ _ _).mpr ?_
  refine ⟨Keeps.refl h, fun e => ⟨by simp, fun e _ => keyPost_error (Keeps.refl h) e⟩, ?_, by simp⟩
  intro _ _
  exact hrest _ (keeps_set_key h hnone _) ⟨Stores.set_self _ _ _ _, hkey⟩

/-- A load, then generating where nothing is stored. -/
theorem wp_orGenerate (h : Sound X σ) {load : Kv Partition (Option (DeviceKey X))}
    (hload : Prog.wp load (LoadPost X σ) (Keeps X σ) σ) (deviceId : String)
    {rest : DeviceKey X → Kv Partition (DeviceKey X)}
    (hrest : ∀ key τ, Keeps X σ τ → Holds τ key → Prog.wp (rest key) (KeyPost X σ) (Keeps X σ) τ) :
    Prog.wp (do
        match ← load with
        | some key => return key
        | none =>
          let key ← DeviceKey.generate deviceId
          key.store .identity
          rest key : Kv Partition (DeviceKey X)) (KeyPost X σ) (Keeps X σ) σ := by
  refine (wp_procBind _ _ _ _ _).mpr (wp_mono ?_ (fun _ hC => hC) hload)
  intro r τ hpost
  refine ⟨fun loaded hr => ?_, fun e _ => keyPost_error hpost.keeps e⟩
  cases loaded with
  | some key => exact keyPost_key hpost.keeps (hpost.holds key hr)
  | none =>
    obtain ⟨rfl, hnone⟩ := hpost.absent hr
    refine (wp_procBind _ _ _ _ _).mpr (wp_mono ?_ (fun _ hC => hC) (wp_generate deviceId _))
    rintro r _ ⟨rfl, hgen⟩
    refine ⟨fun key hkey => ?_, fun e _ => keyPost_error (Keeps.refl h) e⟩
    exact wp_storeKey h hnone (hgen key hkey) (hrest key)

theorem wp_loadOrGenerate (h : Sound X σ) (deviceId : String) :
    Prog.wp (DeviceKey.loadOrGenerate .identity deviceId : Kv Partition (DeviceKey X))
      (KeyPost X σ) (Keeps X σ) σ :=
  wp_orGenerate h (wp_load h deviceId) deviceId fun _ _ hkeeps hholds => keyPost_key hkeeps hholds

theorem wp_loadOrGenerateCached (h : Sound X σ) (deviceId : String) :
    Prog.wp (DeviceKey.loadOrGenerateCached .identity deviceId : Kv Partition (DeviceKey X))
      (KeyPost X σ) (Keeps X σ) σ := by
  refine wp_orGenerate h (wp_loadCached h deviceId) deviceId fun key τ hkeeps hholds => ?_
  -- the entry is written behind the secret, or is not
  have hpub : Keeps X σ (τ.set .identity DeviceKey.KV_PUB (some (ownEntry X key.secret))) :=
    keeps_set_pub key.secret hholds.1 hkeeps.2
  have hentry : ownEntry X key.secret =
      DeviceKey.pubEntry X key.secretBytes key.pubkeySec1Uncompressed := by
    unfold ownEntry DeviceKey.pubkeySec1Uncompressed
    rw [hholds.2]
    rfl
  rw [hentry] at hpub
  refine ⟨hkeeps, fun e => keyPost_key hkeeps hholds, keyPost_key hpub ⟨?_, hholds.2⟩⟩
  rw [Stores.set_of_key_ne KV_PUB_ne_KV_KEY.symm]
  exact hholds.1

/-! ### The other operations -/

/-- Not a write of the secret, nor of an entry of the length of the public key's. -/
def Harmless (s : Partition) (k : String) (v : Option Bytes) : Prop :=
  (s, k) ≠ (.identity, DeviceKey.KV_KEY) ∧
    ((s, k) = (.identity, DeviceKey.KV_PUB) → ∀ e ∈ v, e.length ≠ 97)

theorem harmless_of_own {s : Partition} {k : String} {v : Option Bytes} (h : ToOwnKeys s k v) :
    Harmless s k v := by
  have hkey : (Partition.identity, DeviceKey.KV_KEY) ∉ ownKeys := by decide
  have hpub : (Partition.identity, DeviceKey.KV_PUB) ∉ ownKeys := by decide
  exact ⟨fun heq => hkey (heq ▸ h), fun heq => absurd (heq ▸ h) hpub⟩

theorem writesIn_signPrehashCached (k : DeviceKey X) {name : String} (hname : name ≠ DeviceKey.KV_KEY)
    (prehash : Array8 32) : WritesIn Harmless (k.signPrehashCached .identity name prehash) := by
  rw [signPrehashCached_eq]
  refine writesIn_memo ⟨by simp [hname], fun _ e he => ?_⟩ _ _ _
  cases he
  rw [length_sigEntry]
  decide

theorem keeps_of_harmless {α : Type} {p : KvTotal Partition α} (hp : WritesIn Harmless p)
    (h : Sound X σ) (F : KvFaults) : Keeps X σ (Prog.exec p F σ).2 := by
  have hkey := exec_writesIn hp F σ .identity DeviceKey.KV_KEY
  have hpub := exec_writesIn hp F σ .identity DeviceKey.KV_PUB
  refine keeps_of_frame h (hkey.resolve_right fun hw => hw.1 rfl) ?_
  exact hpub.imp_right fun hw => hw.2 rfl

/-! ### Operations -/

/-- What is done with the identity store. -/
inductive Op (X : Crates) where
  | load (deviceId : String)
  | loadCached (deviceId : String)
  | loadOrGenerate (deviceId : String)
  | loadOrGenerateCached (deviceId : String)
  | sign (k : DeviceKey X) (name : String) (hname : name ≠ DeviceKey.KV_KEY) (prehash : Array8 32)
  | apply (myDid : String)
  | forget

/-- The operation, with the key that it hands to the caller, if any. -/
def Op.prog : Op X → Kv Partition (Option (DeviceKey X))
  | .load deviceId => DeviceKey.load .identity deviceId
  | .loadCached deviceId => DeviceKey.loadCached .identity deviceId
  | .loadOrGenerate deviceId => do return some (← DeviceKey.loadOrGenerate .identity deviceId)
  | .loadOrGenerateCached deviceId => do
    return some (← DeviceKey.loadOrGenerateCached .identity deviceId)
  | .sign k name _ prehash => do
    let _ ← Proc.lift (k.signPrehashCached .identity name prehash)
    return none
  | .apply myDid => do
    let _ ← Model.SettingsAdoption.apply X myDid
    return none
  | .forget => do
    let _ ← Model.SettingsAdoption.forget
    return none

theorem wp_some {p : Kv Partition (DeviceKey X)} (hp : Prog.wp p (KeyPost X σ) (Keeps X σ) σ) :
    Prog.wp (do return some (← p) : Kv Partition (Option (DeviceKey X))) (CallPost X σ)
      (Keeps X σ) σ := by
  refine (wp_procBind _ _ _ _ _).mpr (wp_mono ?_ (fun _ hC => hC) hp)
  intro r τ hpost
  refine ⟨fun key hr => ⟨hpost.keeps, fun key' hk => ?_⟩, fun e _ => ⟨hpost.keeps, by simp⟩⟩
  cases hk
  exact hpost.holds key hr

/-- What hands no key to the caller and writes neither entry. -/
theorem wp_harmless {α : Type} {p : Kv Partition α} (hp : WritesIn Harmless p) (h : Sound X σ) :
    Prog.wp (do let _ ← p; return none : Kv Partition (Option (DeviceKey X))) (CallPost X σ)
      (Keeps X σ) σ := by
  refine (wp_procBind _ _ _ _ _).mpr (wp_of_exec fun F => ?_)
  have hkeeps := keeps_of_harmless hp h F
  exact ⟨fun r _ => ⟨fun _ _ => ⟨hkeeps, by simp⟩, fun e _ => ⟨hkeeps, by simp⟩⟩, fun _ => hkeeps⟩

theorem wp_prog (h : Sound X σ) (op : Op X) :
    Prog.wp op.prog (CallPost X σ) (Keeps X σ) σ := by
  cases op with
  | load deviceId =>
    exact wp_mono (fun _ _ hpost => hpost.toCallPost) (fun _ hC => hC) (wp_load h deviceId)
  | loadCached deviceId =>
    exact wp_mono (fun _ _ hpost => hpost.toCallPost) (fun _ hC => hC) (wp_loadCached h deviceId)
  | loadOrGenerate deviceId => exact wp_some (wp_loadOrGenerate h deviceId)
  | loadOrGenerateCached deviceId => exact wp_some (wp_loadOrGenerateCached h deviceId)
  | sign k name hname prehash =>
    have hsign := writesIn_signPrehashCached k hname prehash
    exact wp_harmless (WritesIn.bind hsign fun _ => True.intro) h
  | apply myDid => exact wp_harmless ((writesIn_apply X myDid).mono fun _ _ _ => harmless_of_own) h
  | forget => exact wp_harmless (writesIn_forget.mono fun _ _ _ => harmless_of_own) h

/-! ### Runs -/

/-- A call: the settings it finds, and which reads, writes and draws fail or are cut. -/
structure Call (X : Crates) where
  op : Op X
  settings : String → Option Bytes
  faults : KvFaults

/-- What a call returns, unless it is cut, and the device it leaves. -/
def Call.run (c : Call X) (σ : Device) : Option (Result (Option (DeviceKey X))) × Device :=
  Prog.exec c.op.prog c.faults (withSettings c.settings σ)

/-- The call hands the key to the caller. -/
def Call.Returns (c : Call X) (σ : Device) (key : DeviceKey X) : Prop :=
  (c.run σ).1 = some (.ok (some key))

/-- The device after several calls. -/
def afterCalls (calls : List (Call X)) (σ : Device) : Device :=
  calls.foldl (fun τ c => (c.run τ).2) σ

/-- **Step.** A call keeps the secret and the soundness, and holds the key that it returns. -/
theorem run_call (h : Sound X σ) (c : Call X) :
    Keeps X σ (c.run σ).2 ∧ ∀ key, c.Returns σ key → Holds (c.run σ).2 key := by
  have hsound : Sound X (withSettings c.settings σ) := h
  obtain ⟨hret, hcut⟩ := exec_of_wp (wp_prog hsound c.op) c.faults
  refine ⟨?_, fun key hkey => (hret _ hkey).holds key rfl⟩
  cases hr : (c.run σ).1 with
  | none => exact hcut hr
  | some r => exact (hret r hr).keeps

/-- **One device, one identity.** In every run: a stored secret stays; a key that is handed to the
caller is the stored one; and so any two are the same. -/
theorem one_device_one_identity (h : Sound X σ) (calls : List (Call X)) :
    (∀ i j, i ≤ j → j ≤ calls.length → ∀ v,
        afterCalls (calls.take i) σ .identity DeviceKey.KV_KEY = some v →
          afterCalls (calls.take j) σ .identity DeviceKey.KV_KEY = some v) ∧
      (∀ (i : ℕ) (hi : i < calls.length) (key : DeviceKey X),
        calls[i].Returns (afterCalls (calls.take i) σ) key →
          Holds (afterCalls (calls.take (i + 1)) σ) key) ∧
      ∀ (i j : ℕ) (hi : i < calls.length) (hj : j < calls.length) (key key' : DeviceKey X),
        calls[i].Returns (afterCalls (calls.take i) σ) key →
          calls[j].Returns (afterCalls (calls.take j) σ) key' →
            key.secret = key'.secret ∧ key.did = key'.did := by
  have hsound : ∀ i ≤ calls.length, Sound X (afterCalls (calls.take i) σ) :=
    foldl_take_invariant h fun j _ hj => (run_call hj _).1.1
  have hstays : ∀ i j, i ≤ j → j ≤ calls.length → ∀ v,
      afterCalls (calls.take i) σ .identity DeviceKey.KV_KEY = some v →
        afterCalls (calls.take j) σ .identity DeviceKey.KV_KEY = some v := by
    intro i j hij hj v hv
    refine foldl_take_induct (P := fun τ : Device => τ .identity DeviceKey.KV_KEY = some v) hv
      (fun m hm _ hkey => ?_) j hij hj
    exact (run_call (hsound m hm.le) _).1.2 v hkey
  have hholds : ∀ (i : ℕ) (hi : i < calls.length) (key : DeviceKey X),
      calls[i].Returns (afterCalls (calls.take i) σ) key →
        Holds (afterCalls (calls.take (i + 1)) σ) key := by
    intro i hi key hkey
    have hnext : afterCalls (calls.take (i + 1)) σ = _ := foldl_take_succ hi
    rw [hnext]
    exact (run_call (hsound i hi.le) _).2 key hkey
  refine ⟨hstays, hholds, ?_⟩
  intro i j hi hj key key' hkey hkey'
  -- both keys are held at the end
  obtain ⟨hsecret, hpub⟩ := hholds i hi key hkey
  obtain ⟨hsecret', hpub'⟩ := hholds j hj key' hkey'
  have hlast := hstays (i + 1) calls.length hi le_rfl _ hsecret
  have hlast' := hstays (j + 1) calls.length hj le_rfl _ hsecret'
  rw [hlast] at hlast'
  have hsame : key.secret = key'.secret :=
    scalarToRepr_injective (List.Vector.toList_injective (Option.some.inj hlast'))
  refine ⟨hsame, ?_⟩
  unfold DeviceKey.did
  rw [hpub, hpub', hsame]

/-! ### A board's first two boots -/

/-- The other crates; nothing is hashed or signed. -/
def unhashed : Crates := threeKeys [] [] []

/-- A board with nothing stored. -/
def blank : Device := fun _ _ => none

/-- The entropy source gives zeros, and then the secret 1. -/
def secondDraw : KvFaults where
  read _ := none
  write _ := .done
  entropy i n := .ok ⟨BigEndian.ofNat n i, by simp⟩

/-- The first boot generates, the second loads. -/
def boots : List (Call unhashed) :=
  [⟨.loadOrGenerate "cam-1", fun _ => none, secondDraw⟩,
    ⟨.load "cam-1", fun _ => none, Faults.calm⟩]

theorem returns_boots (i : Fin 2) :
    ∃ key, boots[i].Returns (afterCalls (boots.take i) blank) key ∧ key.secret = secretOne := by
  have h : ∀ i : Fin 2, ((boots[i].run (afterCalls (boots.take i) blank)).1.map
      fun r => r.map (Option.map fun key => key.secret)) = some (.ok (some secretOne)) := by
    decide +kernel
  have hi := h i
  cases hr : (boots[i].run (afterCalls (boots.take i) blank)).1 with
  | none => rw [hr] at hi; cases hi
  | some r =>
    rw [hr] at hi
    rcases r with e | _ | key
    · cases hi
    · cases hi
    · have hkey : key.secret = secretOne :=
        Option.some.inj (Except.ok.inj (Option.some.inj hi))
      exact ⟨key, hr, hkey⟩

theorem boots_give_one_identity :
    ∃ key key', boots[0].Returns blank key ∧ boots[1].Returns (afterCalls (boots.take 1) blank) key' ∧
      key.secret = secretOne ∧ key.did = key'.did := by
  have hblank : Sound unhashed blank := fun scalar _ e he => by cases he
  obtain ⟨key, hkey, hsecret⟩ := returns_boots ⟨0, by decide⟩
  obtain ⟨key', hkey', -⟩ := returns_boots ⟨1, by decide⟩
  obtain ⟨-, -, hsame⟩ := one_device_one_identity hblank boots
  have hone := hsame 0 1 (by decide) (by decide) key key' hkey hkey'
  exact ⟨key, key', hkey, hkey', hsecret, hone.2⟩

end EspMid.Keeping.DeviceIdentity
