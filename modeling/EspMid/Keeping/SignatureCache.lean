import EspMid.Lib.Runs
import EspMid.Keeping.Entries
import EspMid.Model.Messages

/-! # A remembered signature is the signature

`signPrehashCached` takes a signature from an entry closed by a MAC under the secret. Any number of
keys share the names of one store, overwrite each other's entries and find whatever else was written
there; the invariant is that an entry whose MAC is right for a key holds that key's signature
(`Remembers`), and every call and every write that does not forge a MAC preserves it. -/

namespace EspMid.Keeping.SignatureCache

open EspMid.Lib EspMid.Lib.StoreProg EspMid.Lib.Runs
open EspMid.Model.Core EspMid.Model.Identity EspMid.Model.Key EspMid.Model.Messages
open EspMid.Keeping.Entries

variable {X : Crates} {S : Type} {kv : S} {σ : KvStores S} {K : DeviceKey X → Prop}
  {k k' : DeviceKey X}

/-! ### What an entry holds -/

/-- The bytes an entry remembers: a prehash, and the key's signature over it. -/
def head (k : DeviceKey X) (prehash : Array8 32) : Bytes :=
  prehash.toList ++ (k.signPrehash prehash).toList

theorem length_head (k : DeviceKey X) (prehash : Array8 32) : (head k prehash).length = 96 := by
  simp [head]

/-- If the entry's MAC is right, it holds a prehash and the key's signature over it. -/
def Remembers (k : DeviceKey X) (entry : Option Bytes) : Prop :=
  ∀ e ∈ entry, Tagged X k.secretBytes SIG_DOMAIN 96 e → ∃ prehash, e.take 96 = head k prehash

theorem Remembers.faithful {entry : Option Bytes} (h : Remembers k entry) (prehash : Array8 32) :
    Faithful (recallSig X k.secretBytes prehash) (k.signPrehash prehash) entry := by
  intro e he sig hsig
  obtain ⟨htag, hbody⟩ := recallSig_eq_some.mp hsig
  obtain ⟨prehash', hhead⟩ := h e he htag
  rw [hbody] at hhead
  obtain ⟨hp, hs⟩ := List.append_inj hhead (by simp)
  have hprehash := List.Vector.toList_injective hp
  subst hprehash
  exact List.Vector.toList_injective hs

/-- The MAC of what a key remembers of the prehash is not one under another secret of `K`. -/
def Apart (K : DeviceKey X → Prop) (k : DeviceKey X) (prehash : Array8 32) : Prop :=
  ∀ k', K k' → k'.secret ≠ k.secret →
    hmacSha256 X k.secretBytes [SIG_DOMAIN, head k prehash] ≠
      hmacSha256 X k'.secretBytes [SIG_DOMAIN, head k prehash]

theorem remembers_sigEntry {prehash : Array8 32} (h : Apart K k prehash) (hk' : K k') :
    Remembers k' (some (DeviceKey.sigEntry X k.secretBytes prehash (k.signPrehash prehash))) := by
  intro e he htag
  cases he
  have hentry : DeviceKey.sigEntry X k.secretBytes prehash (k.signPrehash prehash) =
      head k prehash ++ (hmacSha256 X k.secretBytes [SIG_DOMAIN, head k prehash]).toList := rfl
  rw [hentry] at htag ⊢
  rw [← length_head k prehash] at htag ⊢
  by_cases hsecret : k'.secret = k.secret
  · refine ⟨prehash, ?_⟩
    rw [List.take_left]
    unfold head DeviceKey.signPrehash
    rw [hsecret]
  · exact absurd (hmac_eq_of_tagged htag) (h k' hk' hsecret)

/-! ### Calls -/

/-- A call of a key, or someone else's write to the store. -/
inductive Call (X : Crates) where
  | sign (k : DeviceKey X) (name : String) (prehash : Array8 32) (faults : KvFaults)
  | manifest (k : DeviceKey X) (name : String) (m : X.Manifest) (out : Bytes) (faults : KvFaults)
  | write (name : String) (entry : Option Bytes)

section Exec
variable [DecidableEq S]

/-- The store after a call, whether it returns or is cut. -/
def Call.effect (kv : S) (σ : KvStores S) : Call X → KvStores S
  | .sign k name prehash F => (Prog.exec (k.signPrehashCached kv name prehash) F σ).2
  | .manifest k name m out F => (Prog.exec (signManifestCached m k kv name out) F σ).2
  | .write name entry => σ.set kv name entry

/-- The calls are by keys of `K`, whose MACs are apart; other writes hold no MAC of theirs. -/
def Call.Allowed (K : DeviceKey X → Prop) : Call X → Prop
  | .sign k _ prehash _ => K k ∧ Apart K k prehash
  | .manifest k _ m out _ => K k ∧ ∀ n left, X.manifestEncode m out = (.ok n, left) →
      Apart K k (prehash X MANIFEST_DOMAIN (left.take n))
  | .write _ entry => ∀ k, K k → ∀ e ∈ entry, ¬ Tagged X k.secretBytes SIG_DOMAIN 96 e

/-- What a call that is not cut returns. -/
def Call.Returns (kv : S) (σ : KvStores S) : Call X → Prop
  | .sign k name prehash F => (∀ i, F.write i ≠ .cut) →
      (Prog.exec (k.signPrehashCached kv name prehash) F σ).1 = some (k.signPrehash prehash)
  | .manifest k name m out F => (∀ i, F.write i ≠ .cut) →
      (Prog.exec (signManifestCached m k kv name out) F σ).1 =
        some (signManifest m k.signPrehash out)
  | .write _ _ => True

/-- The store after several calls. -/
def afterCalls (kv : S) (calls : List (Call X)) (σ : KvStores S) : KvStores S :=
  calls.foldl (fun τ c => c.effect kv τ) σ

theorem exec_signPrehashCached (h : ∀ name, Remembers k (σ kv name)) (name : String)
    (prehash : Array8 32) (F : KvFaults) :
    let r := Prog.exec (k.signPrehashCached kv name prehash) F σ
    ((∀ i, F.write i ≠ .cut) → r.1 = some (k.signPrehash prehash)) ∧
      (r.2 = σ ∨ r.2 = σ.set kv name
        (some (DeviceKey.sigEntry X k.secretBytes prehash (k.signPrehash prehash)))) := by
  intro r
  have hr : r = _ := congrArg (fun p => Prog.exec p F σ) (signPrehashCached_eq k kv name prehash)
  rw [hr]
  refine ⟨fun hF => ?_, memo_stores⟩
  have hv : (Prog.exec (memo kv name 128 (recallSig X k.secretBytes prehash)
      (k.signPrehash prehash) (DeviceKey.sigEntry X k.secretBytes prehash
        (k.signPrehash prehash))) F σ).1 = _ ∨ F.write 0 = .cut ∧ _ :=
    memo_value ((h name).faithful prehash)
  rcases hv with hv | ⟨hcut, -⟩
  · exact hv
  · exact absurd hcut (hF 0)

/-- Signing a manifest through the cache: the encoding, then the remembered signature. -/
theorem exec_signManifestCached (k : DeviceKey X) (kv : S) (name : String) (m : X.Manifest)
    (out : Bytes) (F : KvFaults) (σ : KvStores S) :
    (∃ e left, X.manifestEncode m out = (.error e, left) ∧
        Prog.exec (signManifestCached m k kv name out) F σ = (some (.error e, left), σ)) ∨
      ∃ n left, X.manifestEncode m out = (.ok n, left) ∧
        Prog.exec (signManifestCached m k kv name out) F σ =
          let r := Prog.exec (k.signPrehashCached kv name
            (prehash X MANIFEST_DOMAIN (left.take n))) F σ
          (r.1.map fun sig => (.ok (n, sig), left), r.2) := by
  unfold signManifestCached
  rcases X.manifestEncode m out with ⟨e | n, left⟩
  · exact Or.inl ⟨e, left, rfl, rfl⟩
  · exact Or.inr ⟨n, left, rfl, exec_map _ _ F σ⟩

/-- **Step.** A call returns the signature, and every key still remembers only its own. -/
theorem remembers_effect (h : ∀ k, K k → ∀ name, Remembers k (σ kv name)) {c : Call X}
    (hc : c.Allowed K) :
    c.Returns kv σ ∧ ∀ k, K k → ∀ name, Remembers k (c.effect kv σ kv name) := by
  -- a key's own entry is remembered wherever it is written
  have hset : ∀ (name : String) (entry : Option Bytes), (∀ k, K k → Remembers k entry) →
      ∀ k, K k → ∀ name', Remembers k (σ.set kv name entry kv name') := by
    intro name entry hentry k hk name'
    rw [Stores.set_apply]
    split_ifs
    · exact hentry k hk
    · exact h k hk name'
  have hsigned : ∀ {k : DeviceKey X} {prehash : Array8 32} {name : String} {τ : KvStores S},
      Apart K k prehash → (τ = σ ∨ τ = σ.set kv name
        (some (DeviceKey.sigEntry X k.secretBytes prehash (k.signPrehash prehash)))) →
      ∀ k', K k' → ∀ name', Remembers k' (τ kv name') := by
    rintro k prehash name τ hapart (rfl | rfl)
    · exact h
    · exact hset name _ fun k' hk' => remembers_sigEntry hapart hk'
  cases c with
  | sign k name prehash F =>
    obtain ⟨hk, hapart⟩ := hc
    obtain ⟨hret, hstores⟩ := exec_signPrehashCached (h k hk) name prehash F
    exact ⟨hret, hsigned hapart hstores⟩
  | manifest k name m out F =>
    obtain ⟨hk, hapart⟩ := hc
    simp only [Call.Returns, Call.effect]
    rcases exec_signManifestCached k kv name m out F σ with
      ⟨e, left, henc, hexec⟩ | ⟨n, left, henc, hexec⟩
    · rw [hexec]
      refine ⟨fun _ => ?_, h⟩
      unfold signManifest
      rw [henc]
    · obtain ⟨hret, hstores⟩ := exec_signPrehashCached (h k hk) name
        (prehash X MANIFEST_DOMAIN (left.take n)) F
      rw [hexec]
      refine ⟨fun hF => ?_, hsigned (hapart n left henc) hstores⟩
      unfold signManifest
      rw [henc]
      exact congrArg (Option.map _) (hret hF)
  | write name entry =>
    exact ⟨True.intro, hset name entry fun k hk e he htag => absurd htag (hc k hk e he)⟩

/-! ### Runs -/

/-- **A remembered signature is the signature.** In every run of any number of keys over one store,
with other writes in between and whatever fails, each call returns what signing returns, and the
invariant holds in every state. -/
theorem remembered_signature_is_signature (kv : S) (K : DeviceKey X → Prop)
    (h : ∀ k, K k → ∀ name, Remembers k (σ kv name)) (calls : List (Call X))
    (hcalls : ∀ c ∈ calls, c.Allowed K) :
    (∀ i ≤ calls.length, ∀ k, K k → ∀ name,
        Remembers k (afterCalls kv (calls.take i) σ kv name)) ∧
      ∀ (i : ℕ) (hi : i < calls.length),
        calls[i].Returns kv (afterCalls kv (calls.take i) σ) := by
  have hinv : ∀ i ≤ calls.length, ∀ k, K k → ∀ name,
      Remembers k (afterCalls kv (calls.take i) σ kv name) := by
    refine foldl_take_invariant (P := fun τ : KvStores S => ∀ k, K k → ∀ name,
      Remembers k (τ kv name)) h fun j hj ih => ?_
    exact (remembers_effect ih (hcalls _ (List.getElem_mem hj))).2
  refine ⟨hinv, fun i hi => ?_⟩
  exact (remembers_effect (hinv i (by omega)) (hcalls _ (List.getElem_mem hi))).1

end Exec

/-! ### Two keys under one name

The keys of the secrets 1 and 2 sign one prehash in turn. -/

/-- The prehash. -/
def threes : Array8 32 := List.Vector.replicate 32 3

/-- The signature under the secret 1. -/
def signatureOne : Signature where
  r := ⟨0x4062989b2c35ee7d03e8ed964cc7f4e18ff4622604ea5df7f9f31262bbcb7e67, by decide⟩
  s := ⟨0x6caacd62b6265ade4e893baaf098bf6af8da6bcbad2ea71aa20b6af4119ba5d9, by decide⟩

/-- The signature under the secret 2, its `s` high. -/
def signatureTwo : Signature where
  r := ⟨0x1d2a0ea64183122f973bf9f0ff5678ebffcd9c80fc98a7d2653fa3e860317625, by decide⟩
  s := ⟨0xb6762dc80a3d2bdb95f70bc12a3f0ecee042bc2d3a1695606036a84c56aafafc, by decide⟩

/-- What the MAC of an entry covers. -/
def sigMessage (sig : Signature) : Bytes := SIG_DOMAIN ++ (threes.toList ++ sig.toBytes.toList)

/-- The other crates, with the MACs of both entries under both secrets. -/
def shared : Crates :=
  let one := sigMessage signatureOne
  let two := sigMessage (signatureTwo.normalizeS.getD signatureTwo)
  threeKeys
    (macHashes secretOne one
        0xbc84c4771d9418f7398bb4a5dac47fec02f76f85ce2188038e7f212705c2e554
        0x157516cb0645ab581485a043ac4ff64810ae33c36f91970c6fa4df670352099c ++
      macHashes secretOne two
        0x25a8ef7a139a732216b891a757b16ba90a579e8cc43868be173e7e5229855a1a
        0xf2411c0ba493b3ee0b716d0ceebbc97c368e633bae2fef99b7500b7bb47ea80b ++
      macHashes secretTwo one
        0xda00c2683883d2cdafb7dc3cb369766ec34c366c9a4f43032ca798a94cce50ea
        0x491025a916a076a65fb6ed908719ef31833749135eb5f981e2f374305774549c ++
      macHashes secretTwo two
        0x0f019537813685138894b24223ec91877a7ffbab508b734b8406d83cc3e79495
        0x39e2961b23c3fcd88a4691454ed3776e89e662332169bc8c5d94dc9a3bad7b19)
    [((firstKey, threes), signatureOne), ((secondKey, threes), signatureTwo)] []

/-- The key of a secret. -/
def keyOf (secret : Scalar) : DeviceKey shared where
  secret := secret
  publicKey := shared.fromSecretScalar secret
  deviceId := deviceName

/-- The keys that share the store. -/
def Sharing (k : DeviceKey shared) : Prop := k = keyOf secretOne ∨ k = keyOf secretTwo

/-- A store without entries. -/
def noEntries : KvStores Unit := fun _ _ => none

/-- They sign in turn. -/
def turns : List (Call shared) :=
  [.sign (keyOf secretOne) "mid.sig" threes Faults.calm,
    .sign (keyOf secretTwo) "mid.sig" threes Faults.calm,
    .sign (keyOf secretOne) "mid.sig" threes Faults.calm]

theorem apart_one : Apart Sharing (keyOf secretOne) threes := by
  have hmac : hmacSha256 shared (scalarToRepr secretOne)
        [SIG_DOMAIN, head (keyOf secretOne) threes] ≠
      hmacSha256 shared (scalarToRepr secretTwo) [SIG_DOMAIN, head (keyOf secretOne) threes] := by
    decide +kernel
  rintro k' (rfl | rfl) hne
  · exact absurd rfl hne
  · exact hmac

theorem apart_two : Apart Sharing (keyOf secretTwo) threes := by
  have hmac : hmacSha256 shared (scalarToRepr secretTwo)
        [SIG_DOMAIN, head (keyOf secretTwo) threes] ≠
      hmacSha256 shared (scalarToRepr secretOne) [SIG_DOMAIN, head (keyOf secretTwo) threes] := by
    decide +kernel
  rintro k' (rfl | rfl) hne
  · exact hmac
  · exact absurd rfl hne

theorem allowed_turns : ∀ c ∈ turns, c.Allowed Sharing := by
  intro c hc
  simp only [turns, List.mem_cons, List.not_mem_nil, or_false] at hc
  rcases hc with rfl | rfl | rfl
  · exact ⟨Or.inl rfl, apart_one⟩
  · exact ⟨Or.inr rfl, apart_two⟩
  · exact ⟨Or.inl rfl, apart_one⟩

/-- The first key's entry is overwritten by the second's, and its next signature is its own. -/
theorem signature_after_another_key :
    (Prog.exec ((keyOf secretOne).signPrehashCached () "mid.sig" threes) Faults.calm
        (afterCalls () (turns.take 2) noEntries)).1 =
      some ((keyOf secretOne).signPrehash threes) := by
  have hempty : ∀ k, Sharing k → ∀ name, Remembers k (noEntries () name) := by
    intro k _ name e he
    cases he
  obtain ⟨-, hreturns⟩ := remembered_signature_is_signature () Sharing hempty turns allowed_turns
  exact hreturns 2 (by decide) fun i => by simp [Faults.calm]

end EspMid.Keeping.SignatureCache
