import EspMid.Lib.Memo
import EspMid.Model.Key

/-! # Cache entries

When the comparison of a MAC succeeds, what an entry of either cache recalls, and the two cached
programs as a `memo`: one of the public key, one of the signature. -/

namespace EspMid.Keeping.Entries

open EspMid.Lib EspMid.Lib.StoreProg EspMid.Model.Core EspMid.Model.Identity EspMid.Model.Key

variable {X : Crates} {S : Type}

/-! ### Comparison without an early exit -/

theorem diffBits_eq_zero {d : UInt8} {a b : Bytes} :
    diffBits d a b = 0 ↔ d = 0 ∧ ∀ p ∈ a.zip b, p.1 = p.2 := by
  unfold diffBits
  generalize a.zip b = l
  induction l generalizing d with
  | nil => simp
  | cons p l ih =>
    rw [List.foldl_cons, ih, UInt8.or_eq_zero_iff, UInt8.xor_eq_zero_iff]
    simp [and_assoc]

theorem eq_of_zip_eq {a b : Bytes} (hlen : a.length = b.length) :
    (∀ p ∈ a.zip b, p.1 = p.2) ↔ a = b := by
  induction a generalizing b with
  | nil =>
    have hb : b = [] := List.length_eq_zero_iff.mp hlen.symm
    simp [hb]
  | cons x a ih =>
    cases b with
    | nil => cases hlen
    | cons y b =>
      have hlen' : a.length = b.length := Nat.succ_injective hlen
      simp only [List.zip_cons_cons, List.forall_mem_cons, ih hlen', List.cons.injEq]

theorem diffBits_tag {tag : Array8 32} {b : Bytes} (hlen : b.length = 32) :
    diffBits 0 tag.toList b = 0 ↔ b = tag.toList := by
  rw [diffBits_eq_zero, eq_of_zip_eq (by simp [hlen])]
  simp [eq_comm]

theorem ctEq32_eq_true {a : Array8 32} {b : Bytes} : ctEq32 a b = true ↔ b = a.toList := by
  unfold ctEq32
  rw [beq_iff_eq]
  by_cases hlen : b.length = 32
  · rw [if_neg (not_not.mpr hlen), diffBits_tag hlen]
  · rw [if_pos hlen, diffBits_eq_zero]
    constructor
    · rintro ⟨h, -⟩
      exact absurd h (by decide)
    · rintro rfl
      exact absurd (by simp) hlen

/-! ### Tagged entries -/

/-- The entry is `n` bytes, closed by the MAC of them under `secret`. -/
def Tagged (X : Crates) (secret : Array8 32) (domain : Bytes) (n : ℕ) (entry : Bytes) : Prop :=
  entry.length = n + 32 ∧
    entry.drop n = (hmacSha256 X secret [domain, entry.take n]).toList

/-- An entry of another secret has the same MAC under both. -/
theorem hmac_eq_of_tagged {secret secret' : Array8 32} {domain body : Bytes}
    (h : Tagged X secret' domain body.length
      (body ++ (hmacSha256 X secret [domain, body]).toList)) :
    hmacSha256 X secret [domain, body] = hmacSha256 X secret' [domain, body] := by
  obtain ⟨-, htag⟩ := h
  rw [List.take_left, List.drop_left] at htag
  exact List.Vector.toList_injective htag

/-! ### The public key -/

/-- The key an entry recalls. -/
def recallPub (X : Crates) (secret : Array8 32) (entry : Bytes) : Option X.VerifyingKey :=
  if entry.length = 97 then DeviceKey.cachedPub X secret entry else none

theorem recallPub_eq_some {secret : Array8 32} {entry : Bytes} {p : X.VerifyingKey} :
    recallPub X secret entry = some p ↔
      Tagged X secret PUB_DOMAIN 65 entry ∧ X.fromSec1Bytes (entry.take 65) = some p := by
  unfold recallPub DeviceKey.cachedPub Tagged
  by_cases hlen : entry.length = 97
  · have htag : (entry.drop 65).length = 32 := by simp [hlen]
    simp only [hlen, diffBits_tag htag, if_true, true_and]
    split_ifs with h
    · simp [h]
    · simp [h]
  · simp [hlen]

theorem take_pubEntry (secret : Array8 32) (point : Array8 65) :
    (DeviceKey.pubEntry X secret point).take 65 = point.toList :=
  List.take_left' point.toList_length

theorem fromSecretCached_eq (kv : S) (secret : Array8 32) (deviceId : String) :
    (DeviceKey.fromSecretCached kv secret deviceId : Kv S (DeviceKey X)) =
      match DeviceId.new deviceId, scalarFromRepr secret with
      | .error e, _ => Prog.ret (.error e)
      | .ok _, none => Prog.ret (.error .crypto)
      | .ok id, some scalar =>
        (memo kv DeviceKey.KV_PUB 97 (recallPub X secret) (X.fromSecretScalar scalar)
          (DeviceKey.pubEntry X secret (X.uncompressed (X.fromSecretScalar scalar)))).bind
            fun p => Prog.ret (.ok { secret := scalar, publicKey := p, deviceId := id }) := by
  unfold DeviceKey.fromSecretCached
  cases DeviceId.new deviceId with
  | error e => rfl
  | ok id =>
    cases scalarFromRepr secret with
    | none => rfl
    | some scalar =>
      refine congrArg (Prog.get kv DeviceKey.KV_PUB 97) (funext fun r => ?_)
      rcases r with e | _ | entry
      · rfl
      · rfl
      · simp only [Prog.bind, recallPub]
        by_cases hlen : entry.length = 97
        · simp only [hlen, if_true]
          cases DeviceKey.cachedPub X secret entry <;> rfl
        · simp only [hlen, if_false]
          rfl

/-! ### Remembered signatures -/

/-- The signature of `prehash` an entry recalls. -/
def recallSig (X : Crates) (secret prehash : Array8 32) (entry : Bytes) : Option (Array8 64) :=
  if entry.length = 128 then DeviceKey.rememberedSig X secret prehash entry else none

theorem recallSig_eq_some {secret prehash : Array8 32} {entry : Bytes} {sig : Array8 64} :
    recallSig X secret prehash entry = some sig ↔
      Tagged X secret SIG_DOMAIN 96 entry ∧ entry.take 96 = prehash.toList ++ sig.toList := by
  unfold recallSig DeviceKey.rememberedSig Tagged
  by_cases hlen : entry.length = 128
  · have hhead : (entry.take 96).length = 96 := by simp [hlen]
    simp only [hlen, if_true, true_and, Bool.and_eq_true, ctEq32_eq_true]
    constructor
    · intro h
      split_ifs at h with hmatch
      obtain ⟨hprehash, htag⟩ := hmatch
      have hsig : (entry.take 96).drop 32 = sig.toList := toArray8_eq_some.mp h
      exact ⟨htag, by rw [← hprehash, ← hsig, List.take_append_drop]⟩
    · rintro ⟨htag, hbody⟩
      have hprehash : (entry.take 96).take 32 = prehash.toList := by
        rw [hbody, List.take_left' prehash.toList_length]
      have hsig : (entry.take 96).drop 32 = sig.toList := by
        rw [hbody, List.drop_left' prehash.toList_length]
      rw [if_pos ⟨hprehash, htag⟩]
      exact toArray8_eq_some.mpr hsig
  · simp [hlen]

theorem length_sigEntry (secret prehash : Array8 32) (sig : Array8 64) :
    (DeviceKey.sigEntry X secret prehash sig).length = 128 := by
  simp [DeviceKey.sigEntry]

theorem signPrehashCached_eq (k : DeviceKey X) (kv : S) (name : String) (prehash : Array8 32) :
    k.signPrehashCached kv name prehash =
      memo kv name 128 (recallSig X k.secretBytes prehash) (k.signPrehash prehash)
        (DeviceKey.sigEntry X k.secretBytes prehash (k.signPrehash prehash)) := by
  unfold DeviceKey.signPrehashCached
  refine congrArg (Prog.get kv name 128) (funext fun r => ?_)
  rcases r with e | _ | entry
  · rfl
  · rfl
  · simp only [Prog.bind, recallSig]
    by_cases hlen : entry.length = 128
    · simp only [hlen, if_true]
      cases DeviceKey.rememberedSig X k.secretBytes prehash entry <;> rfl
    · simp only [hlen, if_false]
      rfl

/-! ### MACs that occur

The hashes behind a MAC, for a table of them. -/

/-- The device's id. -/
def deviceName : DeviceId := ⟨"cam-1", by decide +kernel⟩

/-- The inner and the outer hash of the MAC of a message. -/
def macHashes (secret : Scalar) (message : Bytes) (inner outer : ℕ) : List (Bytes × Array8 32) :=
  [(pad 0x36 (scalarToRepr secret) ++ message, ⟨BigEndian.ofNat 32 inner, by simp⟩),
    (pad 0x5c (scalarToRepr secret) ++ BigEndian.ofNat 32 inner,
      ⟨BigEndian.ofNat 32 outer, by simp⟩)]

end EspMid.Keeping.Entries
