import EspMid.Keeping.Entries

/-! # The cached load is the plain load

`loadCached` takes the public key from an entry beside the secret, closed by a MAC under the secret.
In an honest store, where an entry whose MAC is right holds the secret's own key, it returns what
`load` returns, whatever else the two keys hold and whatever fails; and it leaves the store honest.
-/

namespace EspMid.Keeping.CachedLoad

open EspMid.Lib EspMid.Lib.StoreProg EspMid.Model.Core EspMid.Model.Identity EspMid.Model.Key
open EspMid.Keeping.Entries

variable {X : Crates} {S : Type} {kv : S} {σ : KvStores S}

/-! ### Honest stores -/

/-- If the entry's MAC is right, it holds the public key of the secret. -/
def Genuine (X : Crates) (scalar : Scalar) (entry : Option Bytes) : Prop :=
  ∀ e ∈ entry, Tagged X (scalarToRepr scalar) PUB_DOMAIN 65 e →
    e.take 65 = (X.uncompressed (X.fromSecretScalar scalar)).toList

/-- The public-key entry is genuine for the secret that is stored. -/
def Honest (X : Crates) (kv : S) (σ : KvStores S) : Prop :=
  ∀ scalar, σ kv DeviceKey.KV_KEY = some (scalarToRepr scalar).toList →
    Genuine X scalar (σ kv DeviceKey.KV_PUB)

/-- The entry's MAC is not one under the secret. -/
def Stale (X : Crates) (secret : Array8 32) (entry : Option Bytes) : Prop :=
  ∀ e ∈ entry, ¬ Tagged X secret PUB_DOMAIN 65 e

/-- The entry this code writes for the secret. -/
def ownEntry (X : Crates) (scalar : Scalar) : Bytes :=
  DeviceKey.pubEntry X (scalarToRepr scalar) (X.uncompressed (X.fromSecretScalar scalar))

theorem genuine_ownEntry (X : Crates) (scalar : Scalar) :
    Genuine X scalar (some (ownEntry X scalar)) := by
  intro e he _
  cases he
  exact take_pubEntry _ _

theorem Stale.genuine {scalar : Scalar} {entry : Option Bytes}
    (h : Stale X (scalarToRepr scalar) entry) : Genuine X scalar entry :=
  fun e he htag => absurd htag (h e he)

theorem stale_of_other {secret other : Array8 32} {point : Array8 65}
    (h : hmacSha256 X other [PUB_DOMAIN, point.toList] ≠
      hmacSha256 X secret [PUB_DOMAIN, point.toList]) :
    Stale X secret (some (DeviceKey.pubEntry X other point)) := by
  intro e he htag
  cases he
  have hlen : point.toList.length = 65 := point.toList_length
  rw [← hlen] at htag
  exact h (hmac_eq_of_tagged htag)

theorem Genuine.faithful {scalar : Scalar} {entry : Option Bytes} (h : Genuine X scalar entry) :
    Faithful (recallPub X (scalarToRepr scalar)) (X.fromSecretScalar scalar) entry := by
  intro e he p hp
  obtain ⟨htag, hpoint⟩ := recallPub_eq_some.mp hp
  rw [h e he htag, X.fromSec1Bytes_uncompressed] at hpoint
  exact (Option.some.inj hpoint).symm

/-! ### Both loads as functions of what the secret's key holds -/

/-- The key of a scalar. -/
def derived (X : Crates) (scalar : Scalar) (id : DeviceId) : DeviceKey X :=
  { secret := scalar, publicKey := X.fromSecretScalar scalar, deviceId := id }

theorem fromSecret_eq (secret : Array8 32) (deviceId : String) :
    (DeviceKey.fromSecret secret deviceId : Result (DeviceKey X)) =
      match DeviceId.new deviceId, scalarFromRepr secret with
      | .error e, _ => .error e
      | .ok _, none => .error .crypto
      | .ok id, some scalar => .ok (derived X scalar id) := by
  unfold DeviceKey.fromSecret derive
  cases DeviceId.new deviceId with
  | error e => rfl
  | ok id => cases scalarFromRepr secret <;> rfl

theorem pubEntry_derived (scalar : Scalar) (id : DeviceId) :
    DeviceKey.pubEntry X (derived X scalar id).secretBytes
      (derived X scalar id).pubkeySec1Uncompressed = ownEntry X scalar := rfl

/-- The key with the public key that is remembered, or derived and written. -/
def remember (kv : S) (scalar : Scalar) (id : DeviceId) : Kv S (Option (DeviceKey X)) :=
  (memo kv DeviceKey.KV_PUB 97 (recallPub X (scalarToRepr scalar)) (X.fromSecretScalar scalar)
    (ownEntry X scalar)).bind fun p =>
      Prog.ret (.ok (some { secret := scalar, publicKey := p, deviceId := id }))

theorem some_fromSecretCached_eq (kv : S) (secret : Array8 32) (deviceId : String) :
    (do return some (← DeviceKey.fromSecretCached kv secret deviceId) :
        Kv S (Option (DeviceKey X))) =
      match DeviceId.new deviceId, scalarFromRepr secret with
      | .error e, _ => Proc.fail e
      | .ok _, none => Proc.fail .crypto
      | .ok id, some scalar => remember kv scalar id := by
  have hbind := congrArg (fun p : Kv S (DeviceKey X) => p >>= fun k => pure (some k))
    (fromSecretCached_eq kv secret deviceId)
  refine hbind.trans ?_
  cases hid : DeviceId.new deviceId with
  | error e => rfl
  | ok id =>
    cases hs : scalarFromRepr secret with
    | none => rfl
    | some scalar =>
      obtain rfl := scalarToRepr_of_fromRepr hs
      exact Prog.bind_assoc _ _ _

/-- What `load` makes of the answer to its read. -/
def loaded (X : Crates) (deviceId : String) (answer : Result (Option Bytes)) :
    Result (Option (DeviceKey X)) :=
  match answer with
  | .error e => .error e
  | .ok none => .ok none
  | .ok (some v) =>
    match toArray8 32 v with
    | none => .error .corrupt
    | some secret => (DeviceKey.fromSecret secret deviceId).map some

theorem loaded_eq_key {deviceId : String} {answer : Result (Option Bytes)} {key : DeviceKey X}
    (h : loaded X deviceId answer = .ok (some key)) :
    ∃ scalar id, answer = .ok (some (scalarToRepr scalar).toList) ∧ key = derived X scalar id := by
  rcases answer with e | _ | v
  · cases h
  · cases h
  simp only [loaded] at h
  cases hv : toArray8 32 v with
  | none => simp [hv] at h
  | some secret =>
    simp only [hv, fromSecret_eq] at h
    cases hid : DeviceId.new deviceId with
    | error e => simp [hid, Except.map] at h
    | ok id =>
      cases hs : scalarFromRepr secret with
      | none => simp [hid, hs, Except.map] at h
      | some scalar =>
        simp only [hid, hs, Except.map, Except.ok.injEq, Option.some.injEq] at h
        rw [toArray8_eq_some.mp hv, ← scalarToRepr_of_fromRepr hs]
        exact ⟨scalar, id, rfl, h.symm⟩

theorem loaded_eq_none {deviceId : String} {answer : Result (Option Bytes)}
    (h : loaded X deviceId answer = .ok none) : answer = .ok none := by
  rcases answer with e | _ | v
  · cases h
  · rfl
  simp only [loaded] at h
  cases hv : toArray8 32 v with
  | none => simp [hv] at h
  | some secret =>
    cases hs : (DeviceKey.fromSecret secret deviceId : Result (DeviceKey X)) with
    | error e => simp [hv, hs, Except.map] at h
    | ok key => simp [hv, hs, Except.map] at h

section Exec
variable [DecidableEq S]

theorem exec_load (deviceId : String) (F : KvFaults) :
    Prog.exec (DeviceKey.load kv deviceId : Kv S (Option (DeviceKey X))) F σ =
      (some (loaded X deviceId (σ.answer F kv DeviceKey.KV_KEY 32)), σ) := by
  refine (exec_get _).trans ?_
  unfold loaded
  rcases σ.answer F kv DeviceKey.KV_KEY 32 with e | _ | v
  · rfl
  · rfl
  · simp only [Prog.bind]
    cases toArray8 32 v with
    | none => rfl
    | some secret =>
      simp only
      cases (DeviceKey.fromSecret secret deviceId : Result (DeviceKey X)) <;> rfl

/-- `loadCached` makes of the answer what `load` makes of it, but remembers the public key. -/
theorem exec_loadCached (kv : S) (deviceId : String) (F : KvFaults) (σ : KvStores S) :
    let answer := σ.answer F kv DeviceKey.KV_KEY 32
    (Prog.exec (DeviceKey.loadCached kv deviceId : Kv S (Option (DeviceKey X))) F σ =
        (some (loaded X deviceId answer), σ) ∧ ∀ k, loaded X deviceId answer ≠ .ok (some k)) ∨
    ∃ scalar id, answer = .ok (some (scalarToRepr scalar).toList) ∧
      loaded X deviceId answer = .ok (some (derived X scalar id)) ∧
      Prog.exec (DeviceKey.loadCached kv deviceId : Kv S (Option (DeviceKey X))) F σ =
        Prog.exec (remember kv scalar id) F.tickRead σ := by
  have hget : Prog.exec (DeviceKey.loadCached kv deviceId : Kv S (Option (DeviceKey X))) F σ = _ :=
    exec_get _
  rw [hget]
  simp only
  generalize σ.answer F kv DeviceKey.KV_KEY 32 = answer
  rcases answer with e | _ | v
  · exact Or.inl ⟨rfl, by simp [loaded]⟩
  · exact Or.inl ⟨rfl, by simp [loaded]⟩
  · simp only [Prog.bind, loaded]
    cases hv : toArray8 32 v with
    | none => exact Or.inl ⟨rfl, by simp⟩
    | some secret =>
      simp only [some_fromSecretCached_eq, fromSecret_eq]
      obtain rfl := toArray8_eq_some.mp hv
      cases DeviceId.new deviceId with
      | error e => exact Or.inl ⟨rfl, by simp [Except.map]⟩
      | ok id =>
        cases hs : scalarFromRepr secret with
        | none => exact Or.inl ⟨rfl, by simp [Except.map]⟩
        | some scalar =>
          obtain rfl := scalarToRepr_of_fromRepr hs
          exact Or.inr ⟨scalar, id, rfl, rfl, rfl⟩

/-- The derived key is returned, unless the power is cut, and the entry is kept or written; it is
written if it was stale. -/
theorem exec_remember {scalar : Scalar} (hg : Genuine X scalar (σ kv DeviceKey.KV_PUB))
    (id : DeviceId) (F : KvFaults) :
    let r := Prog.exec (remember kv scalar id : Kv S (Option (DeviceKey X))) F σ
    let written := σ.set kv DeviceKey.KV_PUB (some (ownEntry X scalar))
    (r.1 = some (.ok (some (derived X scalar id))) ∨ F.write 0 = .cut ∧ r.1 = none) ∧
      (r.2 = σ ∨ r.2 = written) ∧
      (Stale X (scalarToRepr scalar) (σ kv DeviceKey.KV_PUB) → F.write 0 = .done →
        r.2 = written) := by
  intro r written
  have hr : r = _ := exec_map _ _ F σ
  have hv : (Prog.exec (memo kv DeviceKey.KV_PUB 97 (recallPub X (scalarToRepr scalar))
      (X.fromSecretScalar scalar) (ownEntry X scalar)) F σ).1 = _ ∨ F.write 0 = .cut ∧ _ :=
    memo_value hg.faithful
  rw [hr]
  refine ⟨?_, memo_stores, fun hstale hw => ?_⟩
  · rcases hv with hv | ⟨hcut, hv⟩
    · exact Or.inl (by simp only [hv]; rfl)
    · exact Or.inr ⟨hcut, by simp only [hv]; rfl⟩
  · refine memo_replaces (fun e he => ?_) hw
    cases hrec : recallPub X (scalarToRepr scalar) e with
    | none => rfl
    | some p => exact absurd (recallPub_eq_some.mp hrec).1 (hstale e he)

/-- A store keeps honest when its public-key entry is kept, or is the secret's own. -/
theorem Honest.remember {τ : KvStores S} {scalar : Scalar} (h : Honest X kv σ)
    (hkey : σ kv DeviceKey.KV_KEY = some (scalarToRepr scalar).toList)
    (hτ : τ = σ ∨ τ = σ.set kv DeviceKey.KV_PUB (some (ownEntry X scalar))) :
    Honest X kv τ := by
  rcases hτ with rfl | rfl
  · exact h
  · intro scalar' hkey'
    have hne : DeviceKey.KV_KEY ≠ DeviceKey.KV_PUB := by decide
    rw [Stores.set_of_key_ne hne, hkey, Option.some.injEq] at hkey'
    have hscalar := scalarToRepr_injective (List.Vector.toList_injective hkey')
    subst hscalar
    rw [Stores.set_self]
    exact genuine_ownEntry X scalar

/-- **The cached load is the plain load.** On an honest store it returns the same under the same
faults, changes nothing but the public-key entry, and leaves the store honest; an entry that is not
of the secret is not taken, and is replaced if the write is done. -/
theorem cached_load_is_plain_load (h : Honest X kv σ) (deviceId : String) (F : KvFaults)
    (hF : ∀ i, F.write i ≠ .cut) :
    let cached := Prog.exec (DeviceKey.loadCached kv deviceId : Kv S (Option (DeviceKey X))) F σ
    let plain := Prog.exec (DeviceKey.load kv deviceId : Kv S (Option (DeviceKey X))) F σ
    cached.1 = plain.1 ∧ plain.1.isSome ∧ plain.2 = σ ∧
      (∀ s k, (s, k) ≠ (kv, DeviceKey.KV_PUB) → cached.2 s k = σ s k) ∧
      Honest X kv cached.2 ∧
      ∀ key, cached.1 = some (.ok (some key)) → key.publicKey = X.fromSecretScalar key.secret ∧
        (Stale X key.secretBytes (σ kv DeviceKey.KV_PUB) → F.write 0 = .done →
          cached.2 kv DeviceKey.KV_PUB =
            some (DeviceKey.pubEntry X key.secretBytes key.pubkeySec1Uncompressed)) := by
  intro cached plain
  have hplain : plain = _ := exec_load deviceId F
  rcases exec_loadCached (X := X) kv deviceId F σ with
    ⟨hcached, hno⟩ | ⟨scalar, id, hanswer, hload, hcached⟩
  · have hc : cached = _ := hcached
    rw [hc, hplain]
    refine ⟨rfl, rfl, rfl, fun _ _ _ => rfl, h, ?_⟩
    intro key hkey
    exact absurd (Option.some.inj hkey) (hno key)
  · have hkey : σ kv DeviceKey.KV_KEY = some (scalarToRepr scalar).toList :=
      Stores.answer_eq_ok hanswer
    obtain ⟨hvalue, hstores, hreplaced⟩ := exec_remember (h scalar hkey) id F.tickRead
    rw [← hcached] at hvalue hstores hreplaced
    replace hvalue := hvalue.resolve_right fun hcut => hF 0 hcut.1
    refine ⟨?_, ?_, ?_, ?_, h.remember hkey hstores, ?_⟩
    · rw [hplain, hload]
      exact hvalue
    · rw [hplain]
      rfl
    · rw [hplain]
    · intro s k hne
      rcases hstores with hτ | hτ
      · exact congrFun (congrFun hτ s) k
      · have hset : cached.2 s k = σ.set kv DeviceKey.KV_PUB (some (ownEntry X scalar)) s k :=
          congrFun (congrFun hτ s) k
        rw [hset, Stores.set_apply, if_neg]
        rintro ⟨rfl, rfl⟩
        exact hne rfl
    · intro key hk
      have hkey' := hk.symm.trans hvalue
      simp only [Option.some.injEq, Except.ok.injEq] at hkey'
      subst hkey'
      refine ⟨rfl, fun hstale hw => ?_⟩
      have hτ : cached.2 = _ := hreplaced hstale hw
      rw [hτ, Stores.set_self]
      rfl

end Exec

/-! ### An entry of another secret

The secret 1 lies beside the public-key entry of the secret 2. -/

/-- What the MAC of an entry covers. -/
def pubMessage (k : Fin 3) : Bytes := PUB_DOMAIN ++ (uncompressedPoint k).toList

/-- The other crates, with three MACs. -/
def macs : Crates :=
  threeKeys
    (macHashes secretTwo (pubMessage secondKey)
        0x278fd29bcbd3b802d5004b9aec3c26220408c6346dffe12c8484fbcea00fecf2
        0x8ce6003f2008dab7d9981c74784ad0608354097e4351c1442316debd45f21824 ++
      macHashes secretOne (pubMessage secondKey)
        0x59dccb8a0e701ba8ce725013efdd2074bed86afd462bbb89b7a8c6b0c4f2942e
        0xefeda422cf2bc11a566631704b5e02011c8a4ba685daf5136648f61e1cabfbfc ++
      macHashes secretOne (pubMessage firstKey)
        0xe157706d3bf0e5302a38e543c07db5bc4310f5aa895471942c2a94f27ab1b364
        0x79aa63487c5e8ca06c4bf8a1bc74d51c32aec0dc4a1429bf24598469c5aa0655) [] []

/-- The store with the entry. -/
def swapped : KvStores Unit := fun _ k =>
  if k = DeviceKey.KV_KEY then some (scalarToRepr secretOne).toList
  else if k = DeviceKey.KV_PUB then some (ownEntry macs secretTwo)
  else none

theorem stale_swapped : Stale macs (scalarToRepr secretOne) (swapped () DeviceKey.KV_PUB) := by
  have hmac : hmacSha256 macs (scalarToRepr secretTwo) [PUB_DOMAIN, (uncompressedPoint 1).toList] ≠
      hmacSha256 macs (scalarToRepr secretOne) [PUB_DOMAIN, (uncompressedPoint 1).toList] := by
    decide +kernel
  exact stale_of_other hmac

theorem honest_swapped : Honest macs () swapped := by
  intro scalar hkey
  have hscalar := scalarToRepr_injective (List.Vector.toList_injective (Option.some.inj hkey))
  subst hscalar
  exact stale_swapped.genuine

theorem load_swapped :
    (Prog.exec (DeviceKey.load () "cam-1" : Kv Unit (Option (DeviceKey macs))) Faults.calm
      swapped).1 = some (.ok (some (derived macs secretOne deviceName))) := by
  have hread : (swapped.read () DeviceKey.KV_KEY 32 : Result _) =
      .ok (some (scalarToRepr secretOne).toList) :=
    Stores.read_eq_some.mpr ⟨rfl, by simp⟩
  have hanswer : swapped.answer Faults.calm () DeviceKey.KV_KEY 32 = _ := hread
  have hid : DeviceId.new "cam-1" = .ok deviceName := dif_pos _
  rw [exec_load, hanswer]
  simp only [loaded, toArray8_toList, fromSecret_eq, hid, scalarFromRepr_toRepr]
  rfl

/-- The other secret's entry is not taken, and is replaced. -/
theorem swapped_entry_is_replaced :
    let cached := Prog.exec (DeviceKey.loadCached () "cam-1" : Kv Unit (Option (DeviceKey macs)))
      Faults.calm swapped
    cached.1 = some (.ok (some (derived macs secretOne deviceName))) ∧
      cached.2 () DeviceKey.KV_PUB = some (ownEntry macs secretOne) := by
  intro cached
  have hcached : cached.1 = _ ∧ _ := cached_load_is_plain_load honest_swapped "cam-1" Faults.calm
    fun i => by simp [Faults.calm]
  obtain ⟨hsame, -, -, -, -, hkey⟩ := hcached
  have hone := hsame.trans load_swapped
  obtain ⟨-, hreplaced⟩ := hkey _ hone
  have hpub := hreplaced stale_swapped rfl
  rw [pubEntry_derived] at hpub
  refine ⟨hone, ?_⟩
  unfold cached
  exact hpub

end EspMid.Keeping.CachedLoad
