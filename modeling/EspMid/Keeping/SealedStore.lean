import EspMid.Lib.BigEndian
import EspMid.Model.Seal

/-! # A sealed store is a store

What lies in the inner store stands for plain values: absent, in the clear, or sealed
(`Represents`). Every operation answers as the plain store would and keeps that relation, so over
any run of calls a read gives what was put last. A put that is refused changes nothing, and one that
is made stores `MAGIC` and the value's length plus `OVERHEAD`. -/

namespace EspMid.Keeping.SealedStore

open EspMid.Lib EspMid.Lib.StoreProg EspMid.Model.Core EspMid.Model.Seal

variable {S : Type} {A : Aes256Gcm} {kv : SealedKv S} {k : Array8 32} {key : String}

/-! ### Sealed values -/

theorem sealedValue_parts (nonce : Array8 NONCE_LEN) (body : Bytes) (tag : Array8 TAG_LEN) :
    let raw := sealedValue nonce body tag
    let rest := raw.drop (MAGIC.length + NONCE_LEN)
    (raw.take (MAGIC.length + NONCE_LEN)).drop MAGIC.length = nonce.toList ∧
      rest.take (rest.length - TAG_LEN) = body ∧
      rest.drop (rest.length - TAG_LEN) = tag.toList := by
  intro raw rest
  have hhead : (MAGIC ++ nonce.toList).length = MAGIC.length + NONCE_LEN := by
    rw [List.length_append, nonce.toList_length]
  have hraw : raw = (MAGIC ++ nonce.toList) ++ (body ++ tag.toList) := by
    simp only [raw, sealedValue, List.append_assoc]
  have hrest : rest = body ++ tag.toList := by
    simp only [rest]
    rw [hraw, List.drop_left' hhead]
  have hlen : rest.length - TAG_LEN = body.length := by
    rw [hrest, List.length_append, tag.toList_length]
    omega
  refine ⟨?_, ?_, ?_⟩
  · rw [hraw, List.take_left' hhead, List.drop_left]
  · rw [hlen, hrest, List.take_left]
  · rw [hlen, hrest, List.drop_left]

theorem length_sealedValue (nonce : Array8 NONCE_LEN) (body : Bytes) (tag : Array8 TAG_LEN) :
    (sealedValue nonce body tag).length = body.length + OVERHEAD := by
  unfold sealedValue OVERHEAD
  simp only [List.length_append, List.Vector.toList_length]
  omega

theorem length_sealed_le {nonce : Array8 NONCE_LEN} {v body : Bytes} {tag : Array8 TAG_LEN}
    (short : v.length ≤ MAX_VALUE)
    (h : A.encrypt k nonce (asBytes key) v = some (body, tag)) :
    (sealedValue nonce body tag).length ≤ MAX_VALUE + OVERHEAD := by
  rw [length_sealedValue, A.length_encrypt h]
  omega

theorem startsWithMagic_sealedValue (nonce : Array8 NONCE_LEN) (body : Bytes)
    (tag : Array8 TAG_LEN) : startsWithMagic (sealedValue nonce body tag) = true := by
  unfold startsWithMagic sealedValue
  rw [List.isPrefixOf_iff_prefix, List.append_assoc, List.append_assoc]
  exact List.prefix_append _ _

/-- What a read answers for a value that begins with `MAGIC`. -/
def openSealed (A : Aes256Gcm) (kv : SealedKv S) (key : String) (raw : Bytes) (cap : ℕ) :
    Result (Option Bytes) :=
  kv.plaintext A key raw >>= fun plain => copyOut plain cap

theorem plaintext_sealedValue (hk : kv.key = some k) {nonce : Array8 NONCE_LEN} {v body : Bytes}
    {tag : Array8 TAG_LEN} (h : A.decrypt k nonce (asBytes key) body tag = some v) :
    kv.plaintext A key (sealedValue nonce body tag) = .ok v := by
  obtain ⟨hnonce, hbody, htag⟩ := sealedValue_parts nonce body tag
  have hlen : ¬ (sealedValue nonce body tag).length < OVERHEAD := by
    rw [length_sealedValue]
    omega
  unfold SealedKv.plaintext
  simp only [hk, if_neg hlen, hnonce, hbody, htag, toArray8_toList, h]

theorem openSealed_sealedValue (hA : A.Opens) (hk : kv.key = some k) {nonce : Array8 NONCE_LEN}
    {v body : Bytes} {tag : Array8 TAG_LEN}
    (h : A.encrypt k nonce (asBytes key) v = some (body, tag)) (cap : ℕ) :
    openSealed A kv key (sealedValue nonce body tag) cap = copyOut v cap := by
  rw [openSealed, plaintext_sealedValue hk (hA _ _ _ _ _ _ h)]
  rfl

theorem taken_fill (r : Result (Option Bytes)) (out : Bytes) : taken (fill out r) = r := by
  rcases r with e | _ | v
  · rfl
  · rfl
  · exact congrArg (fun v => Except.ok (some v)) (List.take_left' rfl)

theorem taken_copyInto (v out : Bytes) : taken (copyInto v out) = copyOut v out.length := by
  unfold copyInto copyOut
  split_ifs
  · exact congrArg (fun v => Except.ok (some v)) (List.take_left' rfl)
  · rfl

theorem get_eq (kv : SealedKv S) (key : String) (cap : ℕ) :
    kv.get A key cap = Prog.get kv.inner key (MAX_VALUE + OVERHEAD) fun
      | .ok none => .ret (.ok none)
      | .error (Error.bufferTooSmall _) => Proc.get kv.inner key cap
      | .error e => .ret (.error e)
      | .ok (some raw) =>
        .ret (if startsWithMagic raw then openSealed A kv key raw cap else copyOut raw cap) := by
  have hcap : (List.replicate cap (0 : UInt8)).length = cap := List.length_replicate
  refine congrArg (Prog.get kv.inner key (MAX_VALUE + OVERHEAD)) (funext fun r => ?_)
  rcases r with e | _ | raw
  · cases e with
    | bufferTooSmall n =>
      -- the second read, into the caller's buffer
      change Prog.get kv.inner key (List.replicate cap (0 : UInt8)).length _ = _
      rw [hcap]
      exact congrArg (Prog.get kv.inner key cap) (funext fun r => congrArg Prog.ret (taken_fill r _))
    | _ => rfl
  · rfl
  · simp only
    split_ifs with hmagic
    · unfold openSealed
      cases kv.plaintext A key raw with
      | error e => rfl
      | ok plain => exact congrArg Prog.ret ((taken_copyInto plain _).trans (by rw [hcap]; rfl))
    · exact congrArg Prog.ret ((taken_copyInto raw _).trans (by rw [hcap]))

/-! ### What the inner store stands for -/

/-- What lies in the inner store under `key`, and the value it stands for. -/
inductive Holds (A : Aes256Gcm) (k : Array8 32) (key : String) :
    Option Bytes → Option Bytes → Prop where
  | absent : Holds A k key none none
  | clear {v : Bytes} (h : startsWithMagic v = false) : Holds A k key (some v) (some v)
  | sealed {nonce : Array8 NONCE_LEN} {v body : Bytes} {tag : Array8 TAG_LEN}
      (short : v.length ≤ MAX_VALUE) (h : A.encrypt k nonce (asBytes key) v = some (body, tag)) :
      Holds A k key (some (sealedValue nonce body tag)) (some v)

/-- The inner store stands for a plain one, and the other stores are the same. -/
structure Represents (A : Aes256Gcm) (inner : S) (k : Array8 32) (τ σ : KvStores S) : Prop where
  held : ∀ key, Holds A k key (τ inner key) (σ inner key)
  others : ∀ s, s ≠ inner → τ s = σ s

theorem represents_clear {inner : S} {σ : KvStores S}
    (h : ∀ key v, σ inner key = some v → startsWithMagic v = false) :
    Represents A inner k σ σ where
  held key := by
    cases hv : σ inner key with
    | none => exact .absent
    | some v => exact .clear (h key v hv)
  others s _ := rfl

variable {τ σ : KvStores S} {inner : S} {D : (n : ℕ) → Result (Array8 n) → Prop}

theorem read_of_none {s : S} {cap : ℕ} (h : σ s key = none) :
    (σ.read s key cap : Result _) = .ok none := Stores.read_eq_none.mpr h

theorem read_of_some {s : S} {v : Bytes} (h : σ s key = some v) (cap : ℕ) :
    (σ.read s key cap : Result _) = copyOut v cap := by
  unfold Stores.read copyOut
  rw [h]
  rfl

section Operations
variable [DecidableEq S]

theorem Represents.set (h : Represents A inner k τ σ) {raw v : Option Bytes}
    (hv : Holds A k key raw v) :
    Represents A inner k (τ.set inner key raw) (σ.set inner key v) where
  held key' := by
    rw [Stores.set_apply, Stores.set_apply]
    split_ifs with hkey
    · rw [hkey.2]
      exact hv
    · exact h.held key'
  others s hs := by
    funext key'
    rw [Stores.set_of_store_ne hs, Stores.set_of_store_ne hs, h.others s hs]

/-- What lies there may be replaced by what stands for the same value. -/
theorem Represents.replace (h : Represents A inner k τ σ) {raw : Option Bytes}
    (hv : Holds A k key raw (σ inner key)) : Represents A inner k (τ.set inner key raw) σ := by
  have hself : σ.set inner key (σ inner key) = σ := by
    funext s key'
    rw [Stores.set_apply]
    split_ifs with hkey
    · rw [hkey.1, hkey.2]
    · rfl
  have hset := h.set hv
  rwa [hself] at hset

/-! ### Reading -/

/-- **A read answers as the plain store's**, whatever the buffer. -/
theorem ensures_get (hA : A.Opens) (h : Represents A inner k τ σ) (key : String) (cap : ℕ) :
    Prog.ensures D (SealedKv.get A ⟨inner, some k⟩ key cap)
      (fun r τ' => r = σ.read inner key cap ∧ τ' = τ) τ := by
  refine (congrArg (Prog.ensures D · _ τ) (get_eq ⟨inner, some k⟩ key cap)).mpr ?_
  unfold Prog.ensures
  have hheld := h.held key
  generalize hraw : τ inner key = raw at hheld
  generalize hplain : σ inner key = plain at hheld
  cases hheld with
  | absent =>
    rw [read_of_none hraw, read_of_none hplain]
    exact ⟨rfl, rfl⟩
  | @clear v hv =>
    rw [read_of_some hraw]
    by_cases hlong : v.length ≤ MAX_VALUE + OVERHEAD
    · have hread : copyOut v (MAX_VALUE + OVERHEAD) = .ok (some v) := if_pos hlong
      rw [hread]
      simp only [hv]
      exact ⟨(read_of_some hplain cap).symm, rfl⟩
    · -- too long to be sealed: the inner store is read again, into the caller's buffer
      have hread : copyOut v (MAX_VALUE + OVERHEAD) = .error (.bufferTooSmall v.length) :=
        if_neg hlong
      rw [hread]
      exact ⟨(read_of_some hraw cap).trans (read_of_some hplain cap).symm, rfl⟩
  | @sealed nonce v body tag short henc =>
    have hread : copyOut (sealedValue nonce body tag) (MAX_VALUE + OVERHEAD) =
        .ok (some (sealedValue nonce body tag)) := if_pos (length_sealed_le short henc)
    rw [read_of_some hraw, hread]
    simp only [startsWithMagic_sealedValue, if_true]
    exact ⟨(openSealed_sealedValue hA rfl henc cap).trans (read_of_some hplain cap).symm, rfl⟩

/-! ### Removing and putting -/

/-- **A removal answers as the plain store's.** -/
theorem ensures_remove (h : Represents A inner k τ σ) (key : String) :
    Prog.ensures D (SealedKv.remove ⟨inner, some k⟩ key)
      (fun r τ' => r = .ok (σ inner key).isSome ∧
        τ' = τ.set inner key none ∧ Represents A inner k τ' (σ.set inner key none)) τ := by
  refine ⟨?_, rfl, h.set .absent⟩
  have hheld := h.held key
  generalize τ inner key = raw at hheld
  generalize σ inner key = plain at hheld
  cases hheld with
  | absent => rfl
  | clear hv => rfl
  | sealed short henc => rfl

/-- What a put stores, for what the random source gives. -/
def sealedPut (A : Aes256Gcm) (k : Array8 32) (key : String) (value : Bytes)
    (drawn : Result (Array8 NONCE_LEN)) : Result Bytes :=
  if value.length > MAX_VALUE then .error .unsupported
  else
    match drawn with
    | .error e => .error e
    | .ok nonce =>
      match A.encrypt k nonce (asBytes key) value with
      | none => .error .crypto
      | some (body, tag) => .ok (sealedValue nonce body tag)

/-- The stored bytes of a put that is made. -/
structure Seals (A : Aes256Gcm) (k : Array8 32) (key : String) (value raw : Bytes) : Prop where
  holds : Holds A k key (some raw) (some value)
  magic : startsWithMagic raw = true
  length : raw.length = value.length + OVERHEAD

theorem seals_of_sealedPut {value raw : Bytes} {drawn : Result (Array8 NONCE_LEN)}
    (h : sealedPut A k key value drawn = .ok raw) : Seals A k key value raw := by
  unfold sealedPut at h
  split_ifs at h with hlong
  split at h
  · cases h
  · split at h
    · cases h
    · next henc =>
      cases h
      exact ⟨.sealed (not_lt.mp hlong) henc, startsWithMagic_sealedValue _ _ _, by
        rw [length_sealedValue, A.length_encrypt henc]⟩

omit [DecidableEq S] in
theorem put_eq (inner : S) (key : String) {value : Bytes} (hshort : value.length ≤ MAX_VALUE) :
    SealedKv.put A ⟨inner, some k⟩ key value = Prog.draw NONCE_LEN fun drawn =>
      match sealedPut A k key value drawn with
      | .ok raw => Proc.put inner key raw
      | .error e => Proc.fail e := by
  unfold SealedKv.put
  simp only [not_lt.mpr hshort, if_false]
  refine congrArg (Prog.draw NONCE_LEN) (funext fun drawn => ?_)
  unfold sealedPut
  rw [if_neg (not_lt.mpr hshort)]
  cases drawn with
  | error e => rfl
  | ok nonce =>
    simp only [Prog.bind]
    cases A.encrypt k nonce (asBytes key) value with
    | none => rfl
    | some out => rfl

/-- **A put** stores what seals the value, or changes nothing. -/
theorem ensures_put {value : Bytes} {Q : Result Unit → KvStores S → Prop}
    (h : ∀ drawn, D NONCE_LEN drawn ∨ MAX_VALUE < value.length →
      match sealedPut A k key value drawn with
      | .ok raw => Q (.ok ()) (τ.set inner key (some raw))
      | .error e => Q (.error e) τ) :
    Prog.ensures D (SealedKv.put A ⟨inner, some k⟩ key value) Q τ := by
  by_cases hlong : value.length > MAX_VALUE
  · have hput := h (.error .unsupported) (Or.inr hlong)
    unfold sealedPut at hput
    rw [if_pos hlong] at hput
    unfold SealedKv.put
    simp only [hlong, if_true]
    exact hput
  · refine (congrArg (Prog.ensures D · Q τ) (put_eq inner key (not_lt.mp hlong))).mpr
      fun drawn hdrawn => ?_
    have hput := h drawn (Or.inl hdrawn)
    cases hraw : sealedPut A k key value drawn with
    | error e =>
      simp only [hraw] at hput ⊢
      exact hput
    | ok raw =>
      simp only [hraw] at hput ⊢
      exact hput

/-! ### Sealing in place -/

/-- `isSealed` knows a sealed value by its length and its first bytes. -/
def marked (raw : Bytes) : Bool :=
  decide (raw.length ≤ MAX_VALUE + OVERHEAD) && startsWithMagic raw

/-- What `isSealed` makes of the inner store's answer. -/
def sealedAnswer : Result (Option Bytes) → Result (Option Bool)
  | .ok (some raw) => .ok (some (startsWithMagic raw))
  | .ok none => .ok none
  | .error (.bufferTooSmall _) => .ok (some false)
  | .error e => .error e

omit [DecidableEq S] in
theorem isSealed_eq (kv : SealedKv S) (key : String) :
    kv.isSealed key =
      Prog.get kv.inner key (MAX_VALUE + OVERHEAD) fun r => .ret (sealedAnswer r) := by
  refine congrArg (Prog.get kv.inner key (MAX_VALUE + OVERHEAD)) (funext fun r => ?_)
  rcases r with e | _ | raw
  · cases e with
    | bufferTooSmall n => rfl
    | _ => rfl
  · rfl
  · rfl

omit [DecidableEq S] in
theorem sealedAnswer_read (τ : KvStores S) (key : String) :
    sealedAnswer (τ.read inner key (MAX_VALUE + OVERHEAD)) = .ok ((τ inner key).map marked) := by
  cases hraw : τ inner key with
  | none =>
    rw [read_of_none hraw]
    rfl
  | some raw =>
    rw [read_of_some hraw]
    unfold copyOut
    simp only [Option.map_some, marked]
    split_ifs with hlong
    · simp [sealedAnswer, hlong]
    · simp [sealedAnswer, hlong]

theorem ensures_isSealed (kv : SealedKv S) (τ : KvStores S) (key : String) :
    Prog.ensures D (SealedKv.isSealed kv key)
      (fun r τ' => r = .ok ((τ kv.inner key).map marked) ∧ τ' = τ) τ :=
  (congrArg (Prog.ensures D · _ τ) (isSealed_eq kv key)).mpr ⟨sealedAnswer_read τ key, rfl⟩

theorem Holds.of_not_marked {raw : Bytes} {plain : Option Bytes}
    (h : Holds A k key (some raw) plain) (hraw : marked raw = false) :
    plain = some raw := by
  generalize hsome : some raw = o at h
  cases h with
  | absent => cases hsome
  | clear hv => rfl
  | @sealed nonce v body tag short henc =>
    cases hsome
    simp [marked, length_sealed_le short henc, startsWithMagic_sealedValue] at hraw

/-- Sealing one key after the other replaces values by what stands for them. -/
theorem ensures_sealEach (keys : List String) :
    ∀ (n : ℕ) {τ : KvStores S}, Represents A inner k τ σ →
      Prog.ensures D (SealedKv.sealEach A ⟨inner, some k⟩ n keys)
        (fun _ τ' => Represents A inner k τ' σ) τ := by
  induction keys with
  | nil => exact fun n τ h => h
  | cons key keys ih =>
    intro n τ h
    refine (ensures_procBind _ _ _ τ).mpr (ensures_mono ?_ (ensures_isSealed _ τ key))
    rintro r τ' ⟨rfl, rfl⟩
    refine ⟨fun o ho => ?_, fun e he => (by cases he)⟩
    cases ho
    split_ifs with hclear
    · obtain ⟨raw, hraw, hmark⟩ := Option.map_eq_some_iff.mp hclear
      have hplain : σ inner key = some raw := Holds.of_not_marked (hraw ▸ h.held key) hmark
      refine (ensures_procBind _ _ _ τ').mpr ⟨fun o ho => ?_, fun e _ => h⟩
      rw [read_of_some hraw] at ho
      unfold copyOut at ho
      split_ifs at ho with hshort
      cases ho
      refine (ensures_procBind _ _ _ τ').mpr (ensures_put fun drawn _ => ?_)
      cases hput : sealedPut A k key raw drawn with
      | error e => exact ⟨fun _ hr => (by cases hr), fun _ _ => h⟩
      | ok sealedRaw =>
        refine ⟨fun _ _ => ih (n + 1) (h.replace ?_), fun _ hr => (by cases hr)⟩
        rw [hplain]
        exact (seals_of_sealedPut hput).holds
    · exact ih n h

/-! ### Executions -/

variable {F : KvFaults}

theorem exec_get (hA : A.Opens) (hF : F.Steady) (h : Represents A inner k τ σ) (key : String)
    (cap : ℕ) :
    Prog.exec (SealedKv.get A ⟨inner, some k⟩ key cap) F τ =
      (some (σ.read inner key cap), τ) := by
  obtain ⟨r, hr, rfl, hτ⟩ := exec_of_ensures (ensures_get (D := fun _ _ => True) hA h key cap) F hF
    fun _ _ => True.intro
  exact Prod.ext hr hτ

theorem exec_remove (hF : F.Steady) (h : Represents A inner k τ σ) (key : String) :
    Prog.exec (SealedKv.remove ⟨inner, some k⟩ key) F τ =
      (some (.ok (σ inner key).isSome), τ.set inner key none) := by
  obtain ⟨r, hr, rfl, hτ, -⟩ := exec_of_ensures
    (ensures_remove (D := fun _ _ => True) h key) F hF fun _ _ => True.intro
  exact Prod.ext hr hτ

theorem exec_put (hF : F.Steady) (τ : KvStores S) (key : String) (value : Bytes) :
    Prog.exec (SealedKv.put A ⟨inner, some k⟩ key value) F τ =
      match sealedPut A k key value (F.entropy 0 NONCE_LEN) with
      | .ok raw => (some (.ok ()), τ.set inner key (some raw))
      | .error e => (some (.error e), τ) := by
  have hwrite : F.tickDraw.write 0 = .done := hF.writes 0
  unfold SealedKv.put sealedPut
  by_cases hlong : value.length > MAX_VALUE
  · simp only [hlong, if_true]
    rfl
  · simp only [hlong, if_false]
    refine Eq.trans (b := Prog.exec _ F.tickDraw τ) rfl ?_
    cases F.entropy 0 NONCE_LEN with
    | error e => rfl
    | ok nonce =>
      simp only [Prog.bind]
      cases A.encrypt k nonce (asBytes key) value with
      | none => rfl
      | some out => simp only [Proc.put, Prog.exec, hwrite]

/-! ### Runs -/

/-- A call of the store's owner. -/
inductive Op where
  | get (key : String) (cap : ℕ)
  | put (key : String) (value : Bytes)
  | remove (key : String)
  | isSealed (key : String)
  | sealInPlace (keys : List String)

/-- A call, its reads and writes done, whatever the random source gives in it. -/
structure Call where
  op : Op
  faults : KvFaults
  steady : faults.Steady

/-- The stores, and the plain ones that the same puts and removals leave. -/
structure Twin (S : Type) where
  raw : KvStores S
  plain : KvStores S

/-- One call; the plain store takes what `put` accepted. -/
def Twin.step (A : Aes256Gcm) (kv : SealedKv S) (s : Twin S) (c : Call) : Twin S :=
  match c.op with
  | .get key cap => { s with raw := (Prog.exec (kv.get A key cap) c.faults s.raw).2 }
  | .put key value =>
    match Prog.exec (kv.put A key value) c.faults s.raw with
    | (some (.ok ()), raw) => { raw, plain := s.plain.set kv.inner key (some value) }
    | (_, raw) => { s with raw }
  | .remove key =>
    { raw := (Prog.exec (kv.remove key) c.faults s.raw).2
      plain := s.plain.set kv.inner key none }
  | .isSealed key => { s with raw := (Prog.exec (kv.isSealed key) c.faults s.raw).2 }
  | .sealInPlace keys => { s with raw := (Prog.exec (kv.sealInPlace A keys) c.faults s.raw).2 }

/-- The stores after several calls. -/
def Twin.after (A : Aes256Gcm) (kv : SealedKv S) (s : Twin S) (calls : List Call) : Twin S :=
  calls.foldl (Twin.step A kv) s

/-- **Step.** -/
theorem represents_step (hA : A.Opens) {s : Twin S} (h : Represents A inner k s.raw s.plain)
    (c : Call) :
    Represents A inner k (s.step A ⟨inner, some k⟩ c).raw (s.step A ⟨inner, some k⟩ c).plain := by
  unfold Twin.step
  cases hop : c.op with
  | get key cap =>
    simp only [exec_get hA c.steady h]
    exact h
  | put key value =>
    simp only [exec_put c.steady]
    cases hput : sealedPut A k key value (c.faults.entropy 0 NONCE_LEN) with
    | ok raw => exact h.set (seals_of_sealedPut hput).holds
    | error e => exact h
  | remove key =>
    simp only [exec_remove c.steady h]
    exact h.set .absent
  | isSealed key =>
    obtain ⟨r, -, -, hraw⟩ := exec_of_ensures
      (ensures_isSealed (D := fun _ _ => True) ⟨inner, some k⟩ s.raw key) c.faults c.steady
      fun _ _ => True.intro
    simp only [hraw]
    exact h
  | sealInPlace keys =>
    obtain ⟨r, -, hraw⟩ := exec_of_ensures (ensures_sealEach (D := fun _ _ => True) keys 0 h)
      c.faults c.steady fun _ _ => True.intro
    exact hraw

/-- **Run.** -/
theorem represents_after (hA : A.Opens) (calls : List Call) {s : Twin S}
    (h : Represents A inner k s.raw s.plain) :
    Represents A inner k (s.after A ⟨inner, some k⟩ calls).raw
      (s.after A ⟨inner, some k⟩ calls).plain := by
  induction calls generalizing s with
  | nil => exact h
  | cons c calls ih => exact ih (represents_step hA h c)

/-- What a put does: it stores `MAGIC` and the value's length plus `OVERHEAD`, or changes nothing;
that when the value is too long or the random source fails, and not otherwise, if the cipher takes
the value. -/
structure PutAnswers (A : Aes256Gcm) (inner : S) (k : Array8 32) (key : String) (value : Bytes)
    (F : KvFaults) (τ : KvStores S) : Prop where
  answers : (∃ raw, Prog.exec (SealedKv.put A ⟨inner, some k⟩ key value) F τ =
        (some (.ok ()), τ.set inner key (some raw)) ∧
      startsWithMagic raw = true ∧ raw.length = value.length + OVERHEAD) ∨
    ∃ e, Prog.exec (SealedKv.put A ⟨inner, some k⟩ key value) F τ = (some (.error e), τ)
  refused : MAX_VALUE < value.length ∨ (∃ e, F.entropy 0 NONCE_LEN = .error e) →
    ∃ e, Prog.exec (SealedKv.put A ⟨inner, some k⟩ key value) F τ = (some (.error e), τ)
  made : ∀ nonce, value.length ≤ MAX_VALUE → F.entropy 0 NONCE_LEN = .ok nonce →
    (A.encrypt k nonce (asBytes key) value).isSome →
      (Prog.exec (SealedKv.put A ⟨inner, some k⟩ key value) F τ).1 = some (.ok ())

theorem putAnswers (hF : F.Steady) (τ : KvStores S) (key : String) (value : Bytes) :
    PutAnswers A inner k key value F τ where
  answers := by
    rw [exec_put hF]
    cases hput : sealedPut A k key value (F.entropy 0 NONCE_LEN) with
    | ok raw =>
      have hseals := seals_of_sealedPut hput
      exact Or.inl ⟨raw, rfl, hseals.magic, hseals.length⟩
    | error e => exact Or.inr ⟨e, rfl⟩
  refused h := by
    rw [exec_put hF]
    unfold sealedPut
    by_cases hlong : value.length > MAX_VALUE
    · rw [if_pos hlong]
      exact ⟨_, rfl⟩
    · obtain ⟨e, he⟩ := h.resolve_left hlong
      rw [if_neg hlong, he]
      exact ⟨e, rfl⟩
  made nonce hshort hnonce henc := by
    obtain ⟨out, hout⟩ := Option.isSome_iff_exists.mp henc
    rw [exec_put hF]
    unfold sealedPut
    simp only [if_neg (not_lt.mpr hshort), hnonce, hout]

/-- **A sealed store is a store.** Over an inner store with nothing that begins with `MAGIC`, after
any calls: a read gives what the plain store holds after the same puts and removals, whatever the
buffer; a removal answers as the plain store's; a put is made, or changes nothing. -/
theorem sealed_store_is_store (A : Aes256Gcm) (hA : A.Opens) (inner : S) (k : Array8 32)
    (σ : KvStores S) (hclear : ∀ key v, σ inner key = some v → startsWithMagic v = false)
    (calls : List Call) :
    let s := Twin.after A ⟨inner, some k⟩ ⟨σ, σ⟩ calls
    ∀ (key : String) (F : KvFaults), F.Steady →
      (∀ cap, Prog.exec (SealedKv.get A ⟨inner, some k⟩ key cap) F s.raw =
        (some (s.plain.read inner key cap), s.raw)) ∧
      Prog.exec (SealedKv.remove ⟨inner, some k⟩ key) F s.raw =
        (some (.ok (s.plain inner key).isSome), s.raw.set inner key none) ∧
      ∀ value, PutAnswers A inner k key value F s.raw := by
  intro s key F hF
  have h : Represents A inner k s.raw s.plain := represents_after hA calls (represents_clear hclear)
  exact ⟨exec_get hA hF h key, exec_remove hF h key, fun value => putAnswers hF s.raw key value⟩

/-! ### Programs over a sealed store -/

/-- The random source gives what is asked of it. -/
def Drawn (n : ℕ) (r : Result (Array8 n)) : Prop := ∃ v, r = .ok v

/-- A sealed store takes the write: its value and its key are short enough. -/
def Sealable (inner : S) : Write S String UInt8 → Prop
  | .put s key v => s = inner → v.length ≤ MAX_VALUE ∧ byteLen key ≤ Aes256Gcm.LIMIT
  | .remove _ _ => True

theorem Represents.set_other (h : Represents A inner k τ σ) {s : S} (hs : s ≠ inner)
    (v : Option Bytes) : Represents A inner k (τ.set s key v) (σ.set s key v) where
  held key' := by
    rw [Stores.set_of_store_ne hs.symm, Stores.set_of_store_ne hs.symm]
    exact h.held key'
  others s' hs' := by
    funext key'
    rw [Stores.set_apply, Stores.set_apply, h.others s' hs']

theorem sealedPut_ok (hE : A.Encrypts) {value : Bytes} (hshort : value.length ≤ MAX_VALUE)
    (hkey : byteLen key ≤ Aes256Gcm.LIMIT) (nonce : Array8 NONCE_LEN) :
    ∃ raw, sealedPut A k key value (.ok nonce) = .ok raw := by
  have hlimit : value.length ≤ Aes256Gcm.LIMIT := le_trans hshort (by decide)
  obtain ⟨out, hout⟩ := Option.isSome_iff_exists.mp (hE k nonce (asBytes key) value hkey hlimit)
  unfold sealedPut
  rw [if_neg (not_lt.mpr hshort)]
  simp only [hout]
  exact ⟨_, rfl⟩

/-- **A sealed store refines a plain one**, for the writes it takes. -/
theorem layer_refines (hA : A.Opens) (hE : A.Encrypts) (inner : S) (k : Array8 32) :
    (SealedKv.layer A ⟨inner, some k⟩).Refines Drawn (Represents A inner k) (Sealable inner) where
  get {τ σ} h s key cap := by
    unfold SealedKv.layer
    by_cases hs : s = inner
    · subst hs
      simp only [if_true]
      refine ensures_mono ?_ (ensures_get hA h key cap)
      rintro r τ' ⟨hr, rfl⟩
      exact ⟨hr, h⟩
    · simp only [hs, if_false]
      refine ⟨?_, h⟩
      unfold Stores.read
      rw [h.others s hs]
  put {τ σ} h s key v hw := by
    unfold SealedKv.layer
    by_cases hs : s = inner
    · subst hs
      obtain ⟨hshort, hkey⟩ := hw rfl
      simp only [if_true]
      refine ensures_put fun drawn hdrawn => ?_
      obtain ⟨nonce, rfl⟩ := hdrawn.resolve_right (not_lt.mpr hshort)
      obtain ⟨raw, hraw⟩ := sealedPut_ok (k := k) hE hshort hkey nonce
      rw [hraw]
      exact ⟨rfl, h.set (seals_of_sealedPut hraw).holds⟩
    · simp only [hs, if_false]
      exact ⟨rfl, h.set_other hs (some v)⟩
  remove {τ σ} h s key _ := by
    unfold SealedKv.layer
    by_cases hs : s = inner
    · subst hs
      simp only [if_true]
      refine ensures_mono ?_ (ensures_remove h key)
      rintro r τ' ⟨hr, -, hτ⟩
      exact ⟨hr, hτ⟩
    · simp only [hs, if_false]
      refine ⟨?_, h.set_other hs none⟩
      rw [h.others s hs]

/-- A value too long to be sealed is refused. -/
theorem layer_refuses {key : String} {v : Bytes} (hlong : MAX_VALUE < v.length)
    (h : Represents A inner k τ σ) :
    Prog.ensures D ((SealedKv.layer A ⟨inner, some k⟩).put inner key v)
      (fun r τ' => r = .error .unsupported ∧ Represents A inner k τ' σ) τ := by
  unfold SealedKv.layer
  simp only [if_true]
  refine ensures_put fun drawn _ => ?_
  unfold sealedPut
  rw [if_pos hlong]
  exact ⟨rfl, h⟩

end Operations

/-! ### A passphrase -/

def sealKey : Array8 32 := List.Vector.replicate 32 7

/-- The nonce that a source of zeros gives. -/
def zeroNonce : Array8 NONCE_LEN := List.Vector.replicate NONCE_LEN 0

def passphrase : Bytes := asBytes "hunter22"

/-- Its ciphertext under that nonce, and the tag. -/
def sealedPassphrase : Bytes × Array8 TAG_LEN :=
  (BigEndian.ofNat 8 0x09adcac69ee039da,
    ⟨BigEndian.ofNat 16 0x36d5fcfdf9428357783da707f6918a47, by simp [TAG_LEN]⟩)

/-- The tag of what is not encrypted. -/
def clearTag : Array8 TAG_LEN := List.Vector.replicate TAG_LEN 0

/-- The cipher on the passphrase; any other plaintext it leaves as it is. -/
def cipher : Aes256Gcm where
  encrypt k nonce aad plain :=
    if (k, nonce, aad, plain) = (sealKey, zeroNonce, asBytes "wifi.psk", passphrase) then
      some sealedPassphrase
    else if aad.length ≤ Aes256Gcm.LIMIT ∧ plain.length ≤ Aes256Gcm.LIMIT then
      some (plain, clearTag)
    else none
  decrypt k nonce aad body tag :=
    if (k, nonce, aad) = (sealKey, zeroNonce, asBytes "wifi.psk") ∧
        (body, tag) = sealedPassphrase then some passphrase
    else if tag = clearTag then some body
    else none
  length_encrypt := by
    intro k nonce aad plain body tag h
    split_ifs at h with hlisted
    · obtain ⟨-, -, -, rfl⟩ := hlisted
      have hbody : body = sealedPassphrase.1 := (congrArg Prod.fst (Option.some.inj h)).symm
      rw [hbody]
      decide
    · cases h
      rfl
  length_decrypt := by
    intro k nonce aad body tag plain h
    split_ifs at h with hlisted
    · cases h
      have hbody : body = sealedPassphrase.1 := congrArg Prod.fst hlisted.2
      rw [hbody]
      decide
    · cases h
      rfl

theorem cipher_opens : cipher.Opens := by
  intro k nonce aad plain body tag h
  unfold cipher at h ⊢
  simp only at h ⊢
  by_cases hlisted : (k, nonce, aad, plain) = (sealKey, zeroNonce, asBytes "wifi.psk", passphrase)
  · rw [if_pos hlisted] at h
    obtain ⟨rfl, rfl, rfl, rfl⟩ := hlisted
    rw [if_pos ⟨rfl, (Option.some.inj h).symm⟩]
  · rw [if_neg hlisted] at h
    split_ifs at h
    cases h
    have htag : clearTag ≠ sealedPassphrase.2 := by decide
    have hclear : ¬ ((k, nonce, aad) = (sealKey, zeroNonce, asBytes "wifi.psk") ∧
        (plain, clearTag) = sealedPassphrase) := fun hc => htag (congrArg Prod.snd hc.2)
    rw [if_neg hclear, if_pos rfl]

theorem cipher_encrypts : cipher.Encrypts := by
  intro k nonce aad plain haad hplain
  unfold cipher
  simp only
  split_ifs with hlisted hlimit
  · rfl
  · rfl
  · exact absurd ⟨haad, hplain⟩ hlimit

/-- A settings store provisioned in the clear. -/
def provisioned : KvStores Unit := fun _ key =>
  if key = "name" then some (asBytes "garden") else none

/-- The passphrase put, with nothing failing. -/
def putPassphrase : Call where
  op := .put "wifi.psk" passphrase
  faults := Faults.calm
  steady := ⟨fun _ => rfl, fun _ => rfl⟩

/-- It reads back, and a buffer of four bytes is too short for it. -/
theorem passphrase_reads_back :
    let s := Twin.after cipher ⟨(), some sealKey⟩ ⟨provisioned, provisioned⟩ [putPassphrase]
    Prog.exec (SealedKv.get cipher ⟨(), some sealKey⟩ "wifi.psk" 64) Faults.calm s.raw =
        (some (.ok (some passphrase)), s.raw) ∧
      Prog.exec (SealedKv.get cipher ⟨(), some sealKey⟩ "wifi.psk" 4) Faults.calm s.raw =
        (some (.error (.bufferTooSmall 8)), s.raw) := by
  have hclear : ∀ key v, provisioned () key = some v → startsWithMagic v = false := by
    intro key v h
    unfold provisioned at h
    split_ifs at h
    cases h
    decide
  obtain ⟨hget, -, -⟩ := sealed_store_is_store cipher cipher_opens () sealKey provisioned hclear
    [putPassphrase] "wifi.psk" Faults.calm putPassphrase.steady
  exact ⟨hget 64, hget 4⟩

end EspMid.Keeping.SealedStore
