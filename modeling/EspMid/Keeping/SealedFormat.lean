import EspMid.Keeping.SealedStore

/-! # What a sealed value is

What a read makes of the bytes that lie in the inner store (`reading`): marked bytes are opened, all
others are the value. With a cipher that opens exactly what it made, marked bytes open to `m` if and
only if they are what a put of `m` under that name stores for some nonce; so every other string of
bytes is refused, and the caller's buffer is touched only by an answer. -/

namespace EspMid.Keeping.SealedFormat

open EspMid.Lib.StoreProg EspMid.Model.Core EspMid.Model.Seal EspMid.Keeping.SealedStore

variable {S : Type} {A : Aes256Gcm} {kv : SealedKv S} {k : Array8 32} {key : String}

/-! ### Reading -/

/-- What a read answers, for what lies in the inner store. -/
def reading (A : Aes256Gcm) (kv : SealedKv S) (key : String) (held : Option Bytes) (cap : ℕ) :
    Result (Option Bytes) :=
  match held with
  | none => .ok none
  | some raw => if marked raw then openSealed A kv key raw cap else copyOut raw cap

theorem fill_copyOut (v out : Bytes) : fill out (copyOut v out.length) = copyInto v out := by
  unfold copyOut copyInto
  split_ifs with h
  · rfl
  · rfl

theorem copyInto_eq_ok {v out out' : Bytes} {n : Option ℕ} :
    copyInto v out = (.ok n, out') ↔
      v.length ≤ out.length ∧ n = some v.length ∧ out' = v ++ out.drop v.length := by
  unfold copyInto
  split_ifs with h
  · simp only [Prod.mk.injEq, Except.ok.injEq, h, true_and]
    exact and_congr eq_comm eq_comm
  · simp [h]

theorem copyInto_eq_value {v m out : Bytes} (hm : m.length ≤ out.length) :
    copyInto v out = (.ok (some m.length), m ++ out.drop m.length) ↔ v = m := by
  rw [copyInto_eq_ok]
  constructor
  · rintro ⟨-, hlen, hbuf⟩
    exact (List.append_inj hbuf.symm (Option.some.inj hlen).symm).1
  · rintro rfl
    exact ⟨hm, rfl, rfl⟩

/-- A read into a buffer is a read, put there. -/
theorem getInto_eq (kv : SealedKv S) (key : String) (out : Bytes) :
    kv.getInto A key out = Prog.bind (kv.get A key out.length) fun r => .ret (fill out r) := by
  refine Eq.trans ?_ (congrArg (fun p => Prog.bind p fun r => .ret (fill out r))
    (get_eq kv key out.length)).symm
  refine congrArg (Prog.get kv.inner key (MAX_VALUE + OVERHEAD)) (funext fun r => ?_)
  rcases r with e | _ | raw
  · cases e with
    | bufferTooSmall n => rfl
    | _ => rfl
  · rfl
  · simp only [Prog.bind]
    split_ifs with hmagic
    · rw [openSealed]
      cases kv.plaintext A key raw with
      | error e => rfl
      | ok plain => exact congrArg Prog.ret (fill_copyOut plain out).symm
    · exact congrArg Prog.ret (fill_copyOut raw out).symm

/-! ### The grammar of sealed values -/

theorem eq_sealedValue {raw : Bytes} {nonce : Array8 NONCE_LEN} {tag : Array8 TAG_LEN}
    (hmagic : startsWithMagic raw = true)
    (hnonce : (raw.take (MAGIC.length + NONCE_LEN)).drop MAGIC.length = nonce.toList)
    (htag : (raw.drop (MAGIC.length + NONCE_LEN)).drop
      ((raw.drop (MAGIC.length + NONCE_LEN)).length - TAG_LEN) = tag.toList) :
    raw = sealedValue nonce ((raw.drop (MAGIC.length + NONCE_LEN)).take
      ((raw.drop (MAGIC.length + NONCE_LEN)).length - TAG_LEN)) tag := by
  obtain ⟨rest, rfl⟩ := List.isPrefixOf_iff_prefix.mp hmagic
  have hhead : MAGIC ++ nonce.toList = (MAGIC ++ rest).take (MAGIC.length + NONCE_LEN) := by
    rw [← hnonce, List.take_length_add_append, List.drop_left]
  unfold sealedValue
  rw [List.append_assoc, ← htag, List.take_append_drop, hhead, List.take_append_drop]

/-- Only what a put lays out is opened. -/
theorem plaintext_eq_ok (hA : A.Ideal) (hk : kv.key = some k) {raw m : Bytes}
    (hmagic : startsWithMagic raw = true) :
    kv.plaintext A key raw = .ok m ↔
      ∃ nonce body tag, A.encrypt k nonce (asBytes key) m = some (body, tag) ∧
        raw = sealedValue nonce body tag := by
  constructor
  · intro h
    unfold SealedKv.plaintext at h
    simp only [hk] at h
    split_ifs at h with hshort
    split at h
    · cases h
    · next nonce hnonce =>
      split at h
      · cases h
      · next tag htag =>
        split at h
        · cases h
        · next plain hplain =>
          cases h
          exact ⟨nonce, _, tag, (hA _ _ _ _ _ _).mp hplain,
            eq_sealedValue hmagic (toArray8_eq_some.mp hnonce) (toArray8_eq_some.mp htag)⟩
  · rintro ⟨nonce, body, tag, henc, rfl⟩
    exact plaintext_sealedValue hk ((hA _ _ _ _ _ _).mpr henc)

theorem sealedPut_eq_ok {m raw : Bytes} {nonce : Array8 NONCE_LEN} :
    sealedPut A k key m (.ok nonce) = .ok raw ↔
      m.length ≤ MAX_VALUE ∧ ∃ body tag, A.encrypt k nonce (asBytes key) m = some (body, tag) ∧
        raw = sealedValue nonce body tag := by
  unfold sealedPut
  constructor
  · intro h
    split_ifs at h with hlong
    refine ⟨not_lt.mp hlong, ?_⟩
    simp only at h
    split at h
    · cases h
    · next body tag henc =>
      cases h
      exact ⟨body, tag, henc, rfl⟩
  · rintro ⟨hshort, body, tag, henc, rfl⟩
    simp only [if_neg (not_lt.mpr hshort), henc]

/-! ### Executions -/

section Exec
variable [DecidableEq S] {F : KvFaults}

theorem exec_reading (hF : F.ReadsDone) (τ : KvStores S) (key : String) (cap : ℕ) :
    Prog.exec (SealedKv.get A kv key cap) F τ =
      (some (reading A kv key (τ kv.inner key) cap), τ) := by
  refine (congrArg (fun p => Prog.exec p F τ) (get_eq kv key cap)).trans ?_
  simp only [Prog.exec, hF 0]
  cases hraw : τ kv.inner key with
  | none =>
    rw [read_of_none hraw]
    rfl
  | some raw =>
    rw [read_of_some hraw]
    unfold reading marked
    by_cases hlong : raw.length ≤ MAX_VALUE + OVERHEAD
    · have hread : copyOut raw (MAX_VALUE + OVERHEAD) = .ok (some raw) := if_pos hlong
      rw [hread]
      simp only [Prog.exec, hlong, decide_true, Bool.true_and]
    · -- too long to be sealed: the inner store is read again, into the caller's buffer
      have hread : copyOut raw (MAX_VALUE + OVERHEAD) = .error (.bufferTooSmall raw.length) :=
        if_neg hlong
      have hagain : F.tickRead.read 0 = none := hF 1
      rw [hread]
      simp only [Proc.get, Prog.exec, hlong, hagain, read_of_some hraw]
      rfl

theorem exec_readingInto (hF : F.ReadsDone) (τ : KvStores S) (key : String) (out : Bytes) :
    Prog.exec (kv.getInto A key out) F τ =
      (some (fill out (reading A kv key (τ kv.inner key) out.length)), τ) := by
  have hget : Prog.exec (SealedKv.get A kv key out.length) F τ =
      (some (reading A kv key (τ kv.inner key) out.length), τ) :=
    exec_reading hF τ key out.length
  refine (congrArg (fun p => Prog.exec p F τ) (getInto_eq kv key out)).trans ?_
  refine (exec_map _ (fill out) F τ).trans ?_
  rw [hget]
  rfl

theorem exec_marked (hF : F.ReadsDone) {τ : KvStores S} {raw : Bytes}
    (hheld : τ kv.inner key = some raw) (hmark : marked raw = true) (out : Bytes) :
    Prog.exec (kv.getInto A key out) F τ =
      (some (match kv.plaintext A key raw with
        | .error e => (.error e, out)
        | .ok plain => copyInto plain out), τ) := by
  rw [exec_readingInto hF, hheld]
  unfold reading
  simp only [hmark, if_true, openSealed]
  cases kv.plaintext A key raw with
  | error e => rfl
  | ok plain => exact congrArg (fun r => (some r, τ)) (fill_copyOut plain out)

theorem exec_unmarked (hF : F.ReadsDone) {τ : KvStores S} {raw : Bytes}
    (hheld : τ kv.inner key = some raw) (hmark : marked raw = false) (out : Bytes) :
    Prog.exec (kv.getInto A key out) F τ = (some (copyInto raw out), τ) := by
  rw [exec_readingInto hF, hheld]
  unfold reading
  simp only [hmark]
  exact congrArg (fun r => (some r, τ)) (fill_copyOut raw out)

/-- **A failed read leaves the buffer**, whatever fails. -/
theorem exec_getInto_error (kv : SealedKv S) (key : String) (F : KvFaults) (τ : KvStores S)
    {out out' : Bytes} {e : Error}
    (h : (Prog.exec (kv.getInto A key out) F τ).1 = some (.error e, out')) : out' = out := by
  have hfill : ∀ r : Result (Option Bytes), (fill out r).1 = .error e → (fill out r).2 = out := by
    intro r hr
    rcases r with e' | _ | v
    · rfl
    · rfl
    · cases hr
  have hexec := (congrArg (fun p => Prog.exec p F τ) (getInto_eq (A := A) kv key out)).trans
    (exec_map _ (fill out) F τ)
  rw [hexec] at h
  obtain ⟨r, -, hr⟩ := Option.map_eq_some_iff.mp h
  have hout := hfill r (congrArg Prod.fst hr)
  rwa [hr] at hout

/-! ### What a put stores -/

/-- A put of `m` that draws `nonce` stores `raw`. -/
def PutStores (A : Aes256Gcm) (kv : SealedKv S) (key : String) (m : Bytes)
    (nonce : Array8 NONCE_LEN) (raw : Bytes) : Prop :=
  ∀ (F : KvFaults) (τ : KvStores S), F.Steady → F.entropy 0 NONCE_LEN = .ok nonce →
    Prog.exec (kv.put A key m) F τ = (some (.ok ()), τ.set kv.inner key (some raw))

/-- Nothing goes wrong, and the source gives `nonce`. -/
def drawing (nonce : Array8 NONCE_LEN) : KvFaults :=
  { (Faults.calm : KvFaults) with
    entropy := fun _ n => if h : NONCE_LEN = n then .ok (h ▸ nonce) else .error .hardware }

theorem putStores_iff (hk : kv.key = some k) {m raw : Bytes} {nonce : Array8 NONCE_LEN} :
    PutStores A kv key m nonce raw ↔ sealedPut A k key m (.ok nonce) = .ok raw := by
  obtain ⟨inner, key'⟩ := kv
  cases hk
  constructor
  · intro h
    have hsteady : (drawing nonce).Steady := ⟨fun _ => rfl, fun _ => rfl⟩
    have hexec := h (drawing nonce) (fun _ _ => none) hsteady rfl
    rw [exec_put hsteady, show (drawing nonce).entropy 0 NONCE_LEN = .ok nonce from rfl] at hexec
    split at hexec
    · next raw' hput =>
      have hset := congrFun (congrFun (congrArg Prod.snd hexec) inner) key
      simp only [Stores.set_self] at hset
      rw [hput, Option.some.inj hset]
    · cases congrArg Prod.fst hexec
  · intro h F τ hF hdraw
    rw [exec_put hF, hdraw, h]

/-- **A marked value opens** to `m` if and only if it is what a put of `m` stores. -/
theorem plaintext_iff_putStores (hA : A.Ideal) (hk : kv.key = some k) {raw m : Bytes}
    (hmagic : startsWithMagic raw = true) (hraw : raw.length ≤ MAX_VALUE + OVERHEAD) :
    kv.plaintext A key raw = .ok m ↔ ∃ nonce, PutStores A kv key m nonce raw := by
  rw [plaintext_eq_ok hA hk hmagic]
  refine exists_congr fun nonce => ?_
  rw [putStores_iff hk, sealedPut_eq_ok]
  constructor
  · rintro ⟨body, tag, henc, rfl⟩
    rw [length_sealedValue, A.length_encrypt henc] at hraw
    exact ⟨by omega, body, tag, henc, rfl⟩
  · exact fun h => h.2

/-- **A sealed value opens only as itself.** Whatever lies under a key, of at most `MAX_VALUE` and
`OVERHEAD` bytes: what begins with `MAGIC` is read as `m` if and only if it is what a put of `m`
under that key stores for some nonce, and is an error without a sealing key; anything else is read
as it lies. An error leaves the buffer. -/
theorem sealed_value_opens_only_as_itself (A : Aes256Gcm) (hA : A.Ideal) (kv : SealedKv S)
    (key : String) (raw : Bytes) (hraw : raw.length ≤ MAX_VALUE + OVERHEAD) (τ : KvStores S)
    (hheld : τ kv.inner key = some raw) :
    (∀ F out, F.ReadsDone → startsWithMagic raw = true → kv.key.isSome →
      (∀ m, m.length ≤ out.length →
        (Prog.exec (kv.getInto A key out) F τ =
            (some (.ok (some m.length), m ++ out.drop m.length), τ) ↔
          ∃ nonce, PutStores A kv key m nonce raw)) ∧
      ∀ n out', Prog.exec (kv.getInto A key out) F τ = (some (.ok n, out'), τ) →
        ∃ m nonce, n = some m.length ∧ out' = m ++ out.drop m.length ∧
          PutStores A kv key m nonce raw) ∧
    (∀ F out, F.ReadsDone → startsWithMagic raw = false →
      Prog.exec (kv.getInto A key out) F τ = (some (copyInto raw out), τ)) ∧
    (∀ F out, F.ReadsDone → startsWithMagic raw = true → kv.key = none →
      ∃ e, Prog.exec (kv.getInto A key out) F τ = (some (.error e, out), τ)) ∧
    ∀ F out e out', (Prog.exec (kv.getInto A key out) F τ).1 = some (.error e, out') →
      out' = out := by
  have hmark : ∀ b, startsWithMagic raw = b → marked raw = b := by
    intro b hb
    unfold marked
    rw [decide_eq_true hraw, Bool.true_and, hb]
  refine ⟨fun F out hF hmagic hsealing => ?_, fun F out hF hclear => ?_,
    fun F out hF hmagic hnone => ?_, fun F out e out' => exec_getInto_error kv key F τ⟩
  · obtain ⟨k, hk⟩ := Option.isSome_iff_exists.mp hsealing
    have hopens : ∀ m, kv.plaintext A key raw = .ok m ↔ ∃ nonce, PutStores A kv key m nonce raw :=
      fun m => plaintext_iff_putStores hA hk hmagic hraw
    rw [exec_marked hF hheld (hmark true hmagic)]
    cases hplain : kv.plaintext A key raw with
    | error e =>
      simp only [hplain] at hopens
      refine ⟨fun m hm => ?_, fun n out' h => by cases h⟩
      rw [← hopens m]
      simp
    | ok plain =>
      simp only [hplain, Except.ok.injEq] at hopens
      simp only [Prod.mk.injEq, Option.some.injEq, and_true]
      refine ⟨fun m hm => ?_, fun n out' h => ?_⟩
      · rw [← hopens m]
        exact copyInto_eq_value hm
      · obtain ⟨-, hn, hout⟩ := copyInto_eq_ok.mp h
        obtain ⟨nonce, hput⟩ := (hopens plain).mp rfl
        exact ⟨plain, nonce, hn, hout, hput⟩
  · exact exec_unmarked hF hheld (hmark false hclear) out
  · have hrefused : kv.plaintext A key raw = .error .crypto := by
      unfold SealedKv.plaintext
      rw [hnone]
    rw [exec_marked hF hheld (hmark true hmagic), hrefused]
    exact ⟨.crypto, rfl⟩

end Exec

/-! ### A passphrase -/

/-- What only the passphrase is sealed with. -/
abbrev Listed (k : Array8 32) (nonce : Array8 NONCE_LEN) (aad : Bytes) : Prop :=
  (k, nonce, aad) = (sealKey, zeroNonce, asBytes "wifi.psk")

/-- The cipher on the passphrase; it opens only what it made. -/
def idealCipher : Aes256Gcm where
  encrypt k nonce aad plain :=
    if Listed k nonce aad ∧ plain = passphrase then some sealedPassphrase
    else if aad.length ≤ Aes256Gcm.LIMIT ∧ plain.length ≤ Aes256Gcm.LIMIT then
      some (plain, clearTag)
    else none
  decrypt k nonce aad body tag :=
    if Listed k nonce aad ∧ (body, tag) = sealedPassphrase then some passphrase
    else if tag = clearTag ∧ ¬ (Listed k nonce aad ∧ body = passphrase) ∧
        aad.length ≤ Aes256Gcm.LIMIT ∧ body.length ≤ Aes256Gcm.LIMIT then some body
    else none
  length_encrypt := by
    intro k nonce aad plain body tag h
    split_ifs at h with hlisted
    · have hbody : body = sealedPassphrase.1 := (congrArg Prod.fst (Option.some.inj h)).symm
      rw [hlisted.2, hbody]
      decide
    · cases h
      rfl
  length_decrypt := by
    intro k nonce aad body tag plain h
    split_ifs at h with hlisted
    · cases h
      have hbody : body = sealedPassphrase.1 := congrArg Prod.fst hlisted.2
      rw [hbody]
      decide
    · cases h
      rfl

theorem idealCipher_ideal : idealCipher.Ideal := by
  intro k nonce aad plain body tag
  have htag : sealedPassphrase.2 ≠ clearTag := by decide
  unfold idealCipher
  simp only
  constructor
  · intro h
    split_ifs at h with hlisted hclear
    · cases h
      rw [if_pos ⟨hlisted.1, rfl⟩, hlisted.2]
    · cases h
      rw [if_neg hclear.2.1, if_pos hclear.2.2, hclear.1]
  · intro h
    split_ifs at h with hlisted hclear
    · have hsealed := Option.some.inj h
      rw [if_pos ⟨hlisted.1, hsealed.symm⟩, hlisted.2]
    · cases h
      rw [if_neg fun hl => htag (congrArg Prod.snd hl.2).symm, if_pos ⟨rfl, hlisted, hclear⟩]

/-- The passphrase as a put leaves it. -/
def sealedAtRest : KvStores Unit := fun _ key =>
  if key = "wifi.psk" then some (sealedValue zeroNonce sealedPassphrase.1 sealedPassphrase.2)
  else none

theorem sealed_passphrase_opens :
    Prog.exec (SealedKv.getInto idealCipher ⟨(), some sealKey⟩ "wifi.psk" (List.replicate 10 0))
        Faults.calm sealedAtRest =
      (some (.ok (some passphrase.length), passphrase ++ [0, 0]), sealedAtRest) := by
  have hstores : ∃ nonce, PutStores idealCipher ⟨(), some sealKey⟩ "wifi.psk" passphrase nonce
      (sealedValue zeroNonce sealedPassphrase.1 sealedPassphrase.2) :=
    ⟨zeroNonce, (putStores_iff rfl).mpr
      (sealedPut_eq_ok.mpr ⟨by decide, _, _, if_pos ⟨rfl, rfl⟩, rfl⟩)⟩
  obtain ⟨hmarked, -, -, -⟩ := sealed_value_opens_only_as_itself idealCipher idealCipher_ideal
    ⟨(), some sealKey⟩ "wifi.psk" _ (by decide) sealedAtRest (if_pos rfl)
  exact ((hmarked Faults.calm (List.replicate 10 0) (fun _ => rfl) (by decide) rfl).1 passphrase
    (by decide)).mpr hstores

end EspMid.Keeping.SealedFormat
