import EspMid.Adopting.Plan

/-! # What is presented

The adoption `stored` presents, read off the four keys of the identity store, and what the
structural check guarantees of it: the owner it names is the owner it pins. -/

namespace EspMid.Adopting.Presented

open EspMid.Lib EspMid.Lib.Framing EspMid.Lib.StoreProg
open EspMid.Model.Core EspMid.Model.Identity EspMid.Model.Envelope EspMid.Model.SettingsAdoption
open EspMid.Adopting.Plan

variable {X : Crates} {myDid : String} {σ : Device}

/-! ### The structural check -/

theorem okOr_eq_ok {α : Type} {o : Option α} {why : String} {a : α} :
    okOr o why = .ok a ↔ o = some a := by
  cases o <;> simp [okOr]

theorem require_eq_ok {c : Bool} {why : String} {u : Unit} : require c why = .ok u ↔ c = true := by
  cases c <;> simp [require]

/-- What a container that passes the check holds. -/
structure Passes (X : Crates) (container : Bytes) (myDid : String) (k : Checked)
    (content jws : String) (payload body : Value) : Prop where
  container : ∃ outer, X.jsonFromSlice container = some outer ∧
    outer.text "content" = some content ∧ outer.text "jws" = some jws
  parts : ∃ h p s hb pb sb header, split jws '.' = [h, p, s] ∧
    (b64 h = some hb ∧ X.jsonFromSlice hb = some header ∧ header.text "alg" = some "ES256" ∧
      header.text "typ" = some "JWT") ∧
    (b64 p = some pb ∧ X.jsonFromSlice pb = some payload) ∧ b64 s = some sb ∧ sb.length = 64
  context : payload.text "context" = some STATEMENT_CONTEXT
  issuer : payload.text "iss" = some k.ownerDid
  hash : payload.text "content_hash" = some (b64Encode (X.sha256 (asBytes content)).toList)
  content : X.jsonFromStr content = some body
  version : (body.field "v").bind Value.asU64 = some 1
  device : body.text "device_did" = some myDid
  owner : body.text "owner_did" = some k.ownerDid
  roster : ∃ v, (body.field "roster_version").bind Value.asU64 = some v ∧ v.toNat < 2 ^ 32 ∧
    k.pin.rosterVersion = UInt32.ofNat v.toNat
  key : ∃ d : Did X, Did.parse k.ownerDid = .ok d ∧ d.pubkey = k.pin.genesisPubkey

theorem passes_of_check {container : Bytes} {k : Checked}
    (h : checkStatement X container myDid = .ok k) :
    ∃ content jws payload body, Passes X container myDid k content jws payload body := by
  unfold checkStatement at h
  simp only [bind_eq_ok, okOr_eq_ok] at h
  obtain ⟨outer, houter, content, hcontent, jws, hjws, h⟩ := h
  split at h
  · next h' p s hsplit =>
    simp only [bind_eq_ok, okOr_eq_ok, require_eq_ok, Bool.and_eq_true, beq_iff_eq,
      Option.map_eq_some_iff, Option.bind_eq_some_iff, exists_const] at h
    obtain ⟨hb, hhb, header, hheader, ⟨halg, htyp⟩, ⟨sb, hsb, hlen⟩, pb, hpb, payload, hpayload,
      hctx, iss, hiss, declared, hdeclared, hhash, body, hbody, hver, hdev, owner, howner, heq,
      rv, ⟨v, hv, hrv⟩, h⟩ := h
    split_ifs at hrv with hlt
    cases hrv
    subst heq hhash
    split at h
    · cases h
    · next d hd =>
      cases h
      exact ⟨content, jws, payload, body,
        { container := ⟨outer, houter, hcontent, hjws⟩
          parts := ⟨h', p, s, hb, pb, sb, header, hsplit, ⟨hhb, hheader, halg, htyp⟩,
            ⟨hpb, hpayload⟩, hsb, hlen⟩
          context := hctx
          issuer := hiss
          hash := hdeclared
          content := hbody
          version := Option.bind_eq_some_iff.mpr hver
          device := hdev
          owner := howner
          roster := ⟨v, Option.bind_eq_some_iff.mpr hv, hlt, rfl⟩
          key := ⟨d, hd, rfl⟩ }⟩
  · cases h

theorem check_of_passes {container : Bytes} {k : Checked} {content jws : String}
    {payload body : Value} (h : Passes X container myDid k content jws payload body) :
    checkStatement X container myDid = .ok k := by
  obtain ⟨outer, houter, hcontent, hjws⟩ := h.container
  obtain ⟨h', p, s, hb, pb, sb, header, hsplit, ⟨hhb, hheader, halg, htyp⟩, ⟨hpb, hpayload⟩, hsb,
    hlen⟩ := h.parts
  obtain ⟨v, hv, hlt, hroster⟩ := h.roster
  obtain ⟨d, hd, hkey⟩ := h.key
  have hdeclared := h.hash
  unfold checkStatement
  simp only [houter, hcontent, hjws, hsplit, hhb, hheader, halg, htyp, hpb, hpayload, hsb,
    Option.map_some, hlen, h.context, h.issuer, hdeclared, h.content, h.version, h.device, h.owner,
    hv, hd, okOr, require, ok_bind, Option.bind_some, if_pos hlt, beq_self_eq_true, Bool.and_self,
    if_true, hkey, ← hroster]
  rfl

/-! ### The stored adoption -/

/-- The identity store presents `st` to the status. -/
def Presents (X : Crates) (myDid : String) (σ : Device) (st : Stored) : Prop :=
  (Prog.exec (stored X myDid) Faults.calm σ).1 = some (.ok (some st))

theorem isMarked_read (σ : Device) :
    isMarked (σ.read .identity KV_PIN_PROVISIONAL 1) =
      decide (σ .identity KV_PIN_PROVISIONAL = some [1]) := by
  unfold Stores.read isMarked
  cases σ .identity KV_PIN_PROVISIONAL with
  | none => simp
  | some v =>
    by_cases hv : v = [1]
    · simp [hv]
    · simp only [Option.some.injEq, hv, decide_false]
      split_ifs
      · simp [hv]
      · rfl

/-- What is presented of some bytes, read as a statement or as an envelope. -/
def present (X : Crates) (myDid : String) (provisional isStatement : Bool) (bytes : Bytes) :
    Option Stored :=
  if isStatement then
    match checkStatement X bytes myDid with
    | .ok c => some { ownerDid := c.ownerDid, kind := KIND_MATA_STATEMENT, bytes, provisional }
    | .error _ => none
  else
    match Adoption.decode bytes with
    | .ok a =>
      if a.fields.deviceDid = myDid then
        some { ownerDid := a.fields.ownerDid, kind := KIND_ADOPTION_V1, bytes, provisional }
      else none
    | .error _ => none

theorem run_storedAs (X : Crates) (myDid : String) (bytes : Bytes) (isStatement : Bool)
    (σ : Device) :
    ((storedAs X myDid bytes isStatement).run σ).1 =
      .ok (present X myDid (decide (σ .identity KV_PIN_PROVISIONAL = some [1])) isStatement
        bytes) := by
  unfold storedAs
  simp only [Proc.run_bind, Proc.run_attempt, Proc.run_get, isMarked_read, present]
  cases isStatement with
  | true =>
    simp only [if_true]
    cases checkStatement X bytes myDid <;> rfl
  | false =>
    simp only [Bool.false_eq_true, if_false]
    cases Adoption.decode bytes with
    | error e => rfl
    | ok a =>
      simp only
      split_ifs <;> rfl

theorem run_stored (X : Crates) (myDid : String) (σ : Device) :
    ((stored X myDid).run σ).1 =
      match (σ.read .identity KV_ADOPTION ADOPT_MAX : Result _) with
      | .ok none | .error (.bufferTooSmall _) => .ok none
      | .error e => .error e
      | .ok (some bytes) =>
        match (σ.read .identity KV_ADOPTION_KIND 32 : Result _) with
        | .ok k => .ok (present X myDid (decide (σ .identity KV_PIN_PROVISIONAL = some [1]))
            (decide (k = some (asBytes KIND_MATA_STATEMENT))) bytes)
        | .error (.bufferTooSmall _) => .ok none
        | .error e => .error e := by
  unfold stored
  simp only [Proc.run_bind, Proc.run_attempt, Proc.run_get]
  cases hb : (σ.read .identity KV_ADOPTION ADOPT_MAX : Result _) with
  | error e => cases e <;> rfl
  | ok v =>
    cases v with
    | none => rfl
    | some bytes =>
      simp only [Proc.run_bind, Proc.run_attempt, Proc.run_get]
      cases hk : (σ.read .identity KV_ADOPTION_KIND 32 : Result _) with
      | error e => cases e <;> rfl
      | ok k =>
        cases k with
        | none => exact run_storedAs _ _ _ _ _
        | some k =>
          have hbeq : (k == asBytes KIND_MATA_STATEMENT) =
              decide (some k = some (asBytes KIND_MATA_STATEMENT)) := by
            rw [Bool.eq_iff_iff, beq_iff_eq, decide_eq_true_iff, Option.some.injEq]
          simp only [← hbeq]
          exact run_storedAs _ _ _ _ _

theorem orderly_storedAs (X : Crates) (myDid : String) (bytes : Bytes) (isStatement : Bool) :
    Orderly (storedAs X myDid bytes isStatement) := by
  refine Orderly.bind (Orderly.attemptGet _ _ _) fun flag => ?_
  split
  · split
    · exact Orderly.pure _
    · exact Orderly.pure _
  · split
    · split_ifs
      · exact Orderly.pure _
      · exact Orderly.pure _
    · exact Orderly.pure _

theorem orderly_stored (X : Crates) (myDid : String) : Orderly (stored X myDid) := by
  refine Orderly.bind (Orderly.attemptGet _ _ _) fun r => ?_
  split
  · exact Orderly.pure _
  · exact Orderly.pure _
  · exact Orderly.fail _
  · refine Orderly.bind (Orderly.attemptGet _ _ _) fun kind => ?_
    split
    · exact orderly_storedAs _ _ _ _
    · exact orderly_storedAs _ _ _ _
    · exact Orderly.pure _
    · exact Orderly.fail _

theorem writesIn_storedAs {W : Partition → String → Option Bytes → Prop} (X : Crates)
    (myDid : String) (bytes : Bytes) (isStatement : Bool) :
    WritesIn W (storedAs X myDid bytes isStatement) := by
  refine WritesIn.procBind (WritesIn.attemptGet _ _ _) fun flag => ?_
  split
  · split
    · exact WritesIn.pure _
    · exact WritesIn.pure _
  · split
    · split_ifs
      · exact WritesIn.pure _
      · exact WritesIn.pure _
    · exact WritesIn.pure _

theorem writesIn_stored {W : Partition → String → Option Bytes → Prop} (X : Crates)
    (myDid : String) : WritesIn W (stored X myDid) := by
  refine WritesIn.procBind (WritesIn.attemptGet _ _ _) fun r => ?_
  split
  · exact WritesIn.pure _
  · exact WritesIn.pure _
  · exact WritesIn.fail _
  · refine WritesIn.procBind (WritesIn.attemptGet _ _ _) fun kind => ?_
    split
    · exact writesIn_storedAs _ _ _ _
    · exact writesIn_storedAs _ _ _ _
    · exact WritesIn.pure _
    · exact WritesIn.fail _

/-- A statement: the kind says so, and the container passes the check. -/
structure PresentsStatement (X : Crates) (myDid : String) (σ : Device) (st : Stored) : Prop where
  marked : σ .identity KV_ADOPTION_KIND = some (asBytes KIND_MATA_STATEMENT)
  checks : ∃ k, checkStatement X st.bytes myDid = .ok k ∧ st.ownerDid = k.ownerDid
  kind : st.kind = KIND_MATA_STATEMENT

/-- A v1 envelope: the kind says nothing of a statement, and the bytes decode. -/
structure PresentsEnvelope (myDid : String) (σ : Device) (st : Stored) : Prop where
  unmarked : σ .identity KV_ADOPTION_KIND ≠ some (asBytes KIND_MATA_STATEMENT)
  short : ∀ v, σ .identity KV_ADOPTION_KIND = some v → v.length ≤ 32
  decodes : ∃ a, Adoption.decode st.bytes = .ok a ∧ a.fields.deviceDid = myDid ∧
    st.ownerDid = a.fields.ownerDid
  kind : st.kind = KIND_ADOPTION_V1

theorem present_eq_some {provisional isStatement : Bool} {bytes : Bytes} {st : Stored} :
    present X myDid provisional isStatement bytes = some st ↔
      st.bytes = bytes ∧ st.provisional = provisional ∧
        (isStatement = true ∧ (∃ k, checkStatement X bytes myDid = .ok k ∧
            st.ownerDid = k.ownerDid) ∧ st.kind = KIND_MATA_STATEMENT ∨
          isStatement = false ∧ (∃ a, Adoption.decode bytes = .ok a ∧
            a.fields.deviceDid = myDid ∧ st.ownerDid = a.fields.ownerDid) ∧
            st.kind = KIND_ADOPTION_V1) := by
  rcases st with ⟨owner, kind, b, prov⟩
  unfold present
  cases isStatement with
  | true =>
    simp only [if_true, true_and, Bool.true_eq_false, false_and, or_false]
    cases checkStatement X bytes myDid with
    | error why => simp
    | ok k =>
      simp only [Option.some.injEq, Stored.mk.injEq, Except.ok.injEq]
      constructor
      · rintro ⟨rfl, rfl, rfl, rfl⟩
        exact ⟨rfl, rfl, ⟨k, rfl, rfl⟩, rfl⟩
      · rintro ⟨rfl, rfl, ⟨k', rfl, rfl⟩, rfl⟩
        exact ⟨rfl, rfl, rfl, rfl⟩
  | false =>
    simp only [Bool.false_eq_true, if_false, false_and, true_and, false_or]
    cases Adoption.decode bytes with
    | error e => simp
    | ok a =>
      simp only [Except.ok.injEq]
      constructor
      · intro h
        split_ifs at h with hdid
        cases h
        exact ⟨rfl, rfl, ⟨a, rfl, hdid, rfl⟩, rfl⟩
      · rintro ⟨rfl, rfl, ⟨a', rfl, hdid, rfl⟩, rfl⟩
        rw [if_pos hdid]

/-- **What `stored` presents.** -/
theorem presents_iff {st : Stored} :
    Presents X myDid σ st ↔
      (σ .identity KV_ADOPTION = some st.bytes ∧ st.bytes.length ≤ ADOPT_MAX) ∧
        st.provisional = decide (σ .identity KV_PIN_PROVISIONAL = some [1]) ∧
        (PresentsStatement X myDid σ st ∨ PresentsEnvelope myDid σ st) := by
  have hcalm : Prog.exec (stored X myDid) Faults.calm σ =
      (some ((stored X myDid).run σ).1, ((stored X myDid).run σ).2) := exec_calm _ _
  unfold Presents
  rw [hcalm, Option.some.injEq, ← Stores.read_eq_some (ε := Error), run_stored]
  cases hb : (σ.read .identity KV_ADOPTION ADOPT_MAX : Result _) with
  | error e => cases e <;> simp
  | ok v =>
    cases v with
    | none => simp
    | some bytes =>
      simp only
      cases hk : (σ.read .identity KV_ADOPTION_KIND 32 : Result _) with
      | error e =>
        -- a kind too long to be read is no statement's, and no envelope is presented under it
        have hnone : ∀ k, (σ.read .identity KV_ADOPTION_KIND 32 : Result _) ≠ .ok k := by
          intro k hk'
          rw [hk] at hk'
          cases hk'
        constructor
        · intro h
          cases e <;> cases h
        · rintro ⟨-, -, h | h⟩
          · exact (hnone _ (Stores.read_eq_some.mpr ⟨h.marked, by decide⟩)).elim
          · exact (hnone _ (Stores.read_eq_ok.mpr ⟨rfl, h.short⟩)).elim
      | ok k =>
        obtain ⟨rfl, hshort⟩ := Stores.read_eq_ok.mp hk
        simp only [Except.ok.injEq, Option.some.injEq, present_eq_some, decide_eq_true_iff,
          decide_eq_false_iff_not]
        constructor
        · rintro ⟨rfl, hprov, ⟨hk, hc, hkind⟩ | ⟨hk, hd, hkind⟩⟩
          · exact ⟨rfl, hprov, Or.inl ⟨hk, hc, hkind⟩⟩
          · exact ⟨rfl, hprov, Or.inr ⟨hk, hshort, hd, hkind⟩⟩
        · rintro ⟨rfl, hprov, h | h⟩
          · exact ⟨rfl, hprov, Or.inl ⟨h.marked, h.checks, h.kind⟩⟩
          · exact ⟨rfl, hprov, Or.inr ⟨h.unmarked, h.decodes, h.kind⟩⟩

theorem presents_taken {container : Bytes} {checked : Checked} {pinned : Option OwnerPin}
    (h : Takes X myDid σ container checked pinned) :
    Presents X myDid (applyAll (takeWrites container checked) σ)
      { ownerDid := checked.ownerDid, kind := KIND_MATA_STATEMENT, bytes := container,
        provisional := true } := by
  obtain ⟨hadopt, hkind, -, hprov, -⟩ := taken_state container checked σ
  obtain ⟨-, hlen⟩ := Stores.read_eq_some.mp h.delivered
  exact presents_iff.mpr ⟨⟨hadopt, hlen⟩, by rw [hprov]; rfl,
    Or.inl ⟨hkind, ⟨checked, h.checks, rfl⟩, rfl⟩⟩

/-! ### A delivery

The owner with the secret 2 adopts the device with the secret 1. -/

/-- The device's identity. -/
def deviceDid : String := "did:mata:21tzoXVq7aGx61bNRTPDVn9hJhszdDA4CPcp9LYZL8ffT"

/-- The owner's. -/
def ownerDid : String := "did:mata:236h7pukvqi6u8ADu53erbWyLYXNyNEuB9BRNMXtVKUfZ"

/-- What the owner states. -/
def content : String :=
  "\x7b\"v\":1,\"device_did\":\"" ++ deviceDid ++ "\",\"owner_did\":\"" ++ ownerDid ++
    "\",\"roster_version\":3,\"caps\":[],\"iat\":1700000000,\"exp\":0\x7d"

/-- Its hash. -/
def contentHash : Array8 32 :=
  ⟨BigEndian.ofNat 32 0xdb2136174e73c29a24c5a02312d72aa4cb4f60b9f21da99e42184469d09d8b2d, by simp⟩

/-- The JWS header. -/
def header : String := "\x7b\"alg\":\"ES256\",\"typ\":\"JWT\"\x7d"

/-- Its claims. -/
def payload : String :=
  "\x7b\"context\":\"janus-adoption-v1\",\"iss\":\"" ++ ownerDid ++ "\",\"content_hash\":\"" ++
    b64Encode contentHash.toList ++ "\"\x7d"

/-- The owner's signature over header and payload. -/
def signature : Bytes :=
  BigEndian.ofNat 32 0x0b5430267f804111720bafb67110988cc5ca804534cbc9de1dfdd3ef7df32d4f ++
    BigEndian.ofNat 32 0x0195c3b5c64c1ff9aeff01f2b3508c718ac64a1c41b42c8e11890b2073c315f7

/-- The statement. -/
def jws : String :=
  b64Encode (asBytes header) ++ "." ++ b64Encode (asBytes payload) ++ "." ++ b64Encode signature

/-- The container that is delivered: the content, its quotes escaped, and the statement. -/
def container : Bytes := asBytes
  ("\x7b\"content\":\"\x7b\\\"v\\\":1,\\\"device_did\\\":\\\"" ++ deviceDid ++
    "\\\",\\\"owner_did\\\":\\\"" ++ ownerDid ++ "\\\",\\\"roster_version\\\":3,\\\"caps\\\":[]," ++
    "\\\"iat\\\":1700000000,\\\"exp\\\":0\x7d\",\"jws\":\"" ++ jws ++ "\"\x7d")

/-- The other crates, on what occurs. -/
def delivery : Crates :=
  threeKeys [(asBytes content, contentHash)] []
    [(container, .object [("content", .string content), ("jws", .string jws)]),
      (asBytes header, .object [("alg", .string "ES256"), ("typ", .string "JWT")]),
      (asBytes payload,
        .object [("context", .string STATEMENT_CONTEXT), ("iss", .string ownerDid),
          ("content_hash", .string (b64Encode contentHash.toList))]),
      (asBytes content,
        .object [("v", .number (.posInt 1)), ("device_did", .string deviceDid),
          ("owner_did", .string ownerDid), ("roster_version", .number (.posInt 3)),
          ("caps", .array []), ("iat", .number (.posInt 1700000000)),
          ("exp", .number (.posInt 0))])]

/-- What the device takes from it. -/
def delivered : Checked where
  ownerDid := ownerDid
  pin := { genesisPubkey := compressedPoint secondKey, rosterVersion := 3 }

theorem ne_of_take {a b : Bytes} (n : ℕ) (h : a.take n ≠ b.take n) : a ≠ b :=
  fun heq => h (congrArg _ heq)

theorem container_take : container.take 9 = asBytes "\x7b\"content" := by
  unfold container
  simp only [asBytes_append, List.append_assoc]
  decide +kernel

theorem header_take : (asBytes header).take 9 = asBytes "\x7b\"alg\":\"E" := by decide +kernel

theorem payload_take : (asBytes payload).take 9 = asBytes "\x7b\"context" := by
  unfold payload
  simp only [asBytes_append, List.append_assoc]
  decide +kernel

theorem content_take : (asBytes content).take 9 = asBytes "\x7b\"v\":1,\"d" := by
  unfold content
  simp only [asBytes_append, List.append_assoc]
  decide +kernel

theorem b64_encode (b : Bytes) : b64 (b64Encode b) = some b := by
  unfold b64 b64Encode
  rw [String.toList_ofList, Base64Url.decode_encode]

theorem split_parts (h p s : Bytes) :
    split (b64Encode h ++ "." ++ b64Encode p ++ "." ++ b64Encode s) '.' =
      [b64Encode h, b64Encode p, b64Encode s] := by
  have hdot : ∀ b : Bytes, ∀ c ∈ Base64Url.encode b, (c == '.') = false := by
    intro b c hc
    have hsym := Base64Url.sextet_of_mem_encode b c hc
    rw [beq_eq_false_iff_ne]
    rintro rfl
    exact absurd hsym (by decide)
  unfold split b64Encode
  simp only [String.toList_append, String.toList_ofList, List.append_assoc,
    show ".".toList = ['.'] by decide, List.cons_append, List.nil_append, List.splitOn]
  rw [List.splitOnP_append_cons_of_forall_mem (hdot h) _ (by decide),
    List.splitOnP_append_cons_of_forall_mem (hdot p) _ (by decide),
    List.splitOnP_eq_singleton (hdot s)]
  rfl

theorem json_delivery :
    delivery.jsonFromSlice container =
        some (.object [("content", .string content), ("jws", .string jws)]) ∧
      delivery.jsonFromSlice (asBytes header) =
        some (.object [("alg", .string "ES256"), ("typ", .string "JWT")]) ∧
      delivery.jsonFromSlice (asBytes payload) =
        some (.object [("context", .string STATEMENT_CONTEXT), ("iss", .string ownerDid),
          ("content_hash", .string (b64Encode contentHash.toList))]) ∧
      delivery.jsonFromStr content =
        some (.object [("v", .number (.posInt 1)), ("device_did", .string deviceDid),
          ("owner_did", .string ownerDid), ("roster_version", .number (.posInt 3)),
          ("caps", .array []), ("iat", .number (.posInt 1700000000)),
          ("exp", .number (.posInt 0))]) := by
  have h1 : asBytes header ≠ container :=
    ne_of_take 9 (by rw [header_take, container_take]; decide)
  have h2 : asBytes payload ≠ container :=
    ne_of_take 9 (by rw [payload_take, container_take]; decide)
  have h3 : asBytes payload ≠ asBytes header :=
    ne_of_take 9 (by rw [payload_take, header_take]; decide)
  have h4 : asBytes content ≠ container :=
    ne_of_take 9 (by rw [content_take, container_take]; decide)
  have h5 : asBytes content ≠ asBytes header :=
    ne_of_take 9 (by rw [content_take, header_take]; decide)
  have h6 : asBytes content ≠ asBytes payload :=
    ne_of_take 9 (by rw [content_take, payload_take]; decide)
  unfold delivery threeKeys
  simp [List.lookup_cons, beq_eq_false_iff_ne.mpr h1, beq_eq_false_iff_ne.mpr h2,
    beq_eq_false_iff_ne.mpr h3, beq_eq_false_iff_ne.mpr h4, beq_eq_false_iff_ne.mpr h5,
    beq_eq_false_iff_ne.mpr h6]

theorem parse_ownerDid :
    ∃ d : Did delivery, Did.parse ownerDid = .ok d ∧ d.pubkey = compressedPoint secondKey := by
  have h : (Did.parse ownerDid : Result (Did delivery)).map Did.pubkey =
      .ok (compressedPoint secondKey) := by
    decide +kernel
  cases hp : (Did.parse ownerDid : Result (Did delivery)) with
  | error e => rw [hp] at h; cases h
  | ok d => rw [hp] at h; exact ⟨d, rfl, Except.ok.inj h⟩

theorem check_delivery : checkStatement delivery container deviceDid = .ok delivered := by
  obtain ⟨h1, h2, h3, h4⟩ := json_delivery
  have hhash : delivery.sha256 (asBytes content) = contentHash := by
    simp [delivery, threeKeys, List.lookup_cons]
  exact check_of_passes
    { container := ⟨_, h1, rfl, rfl⟩
      parts := ⟨_, _, _, _, _, _, _, split_parts _ _ _, ⟨b64_encode _, h2, rfl, rfl⟩,
        ⟨b64_encode _, h3⟩, b64_encode signature, by simp [signature]⟩
      context := rfl
      issuer := rfl
      hash := by rw [hhash]; rfl
      content := h4
      version := rfl
      device := rfl
      owner := rfl
      roster := ⟨3, rfl, by decide, rfl⟩
      key := parse_ownerDid }

theorem length_container : container.length = 572 := by
  unfold container jws
  simp only [asBytes_append, List.length_append]
  decide +kernel

/-- A device without an adoption. -/
def fresh : Device := fun _ _ => none

/-- Settings with the delivery. -/
def offer : String → Option Bytes := fun k => if k = SETTINGS_ADOPT then some container else none

theorem takes_delivery : Takes delivery deviceDid (withSettings offer fresh) container delivered none where
  delivered := Stores.read_eq_some.mpr ⟨rfl, by rw [length_container]; decide⟩
  checks := check_delivery
  held := rfl
  follows := by simp

/-- The delivery, taken by the fresh device, the power cut after `n` writes. -/
def deliveryCutAfter (n : ℕ) : Call := ⟨.apply, offer, Faults.cutAfter n, readsDone_cutAfter n⟩

theorem takesFrom_delivery (n : ℕ) :
    (deliveryCutAfter n).TakesFrom delivery deviceDid fresh container delivered :=
  ⟨rfl, none, takes_delivery⟩

theorem made_delivery {n : ℕ} (hn : n ≤ 5) : (deliveryCutAfter n).made 5 = n :=
  (lead_cutAfter n 5).trans (min_eq_left hn)

theorem after_delivery {n : ℕ} (hn : n ≤ 5) :
    let τ := afterCalls delivery deviceDid [deliveryCutAfter n] fresh
    τ .identity KV_ADOPTION = (if 0 < n then some container else none) ∧
      τ .identity KV_ADOPTION_KIND =
        (if 1 < n then some (asBytes KIND_MATA_STATEMENT) else none) ∧
      τ .identity KV_OWNER_PIN = (if 2 < n then some (pinBytes delivered.pin) else none) ∧
      τ .identity KV_PIN_PROVISIONAL = (if 3 < n then some [1] else none) := by
  obtain ⟨hadopt, hkind, hpin, hprov, -⟩ := take_state container delivered
    ((deliveryCutAfter n).made 5) fresh
  rw [← effect_of_takes (takesFrom_delivery n), ← afterCalls_singleton, made_delivery hn]
    at hadopt hkind hpin hprov
  exact ⟨hadopt, hkind, hpin, hprov⟩

theorem presents_delivery {n : ℕ} (h2 : 1 < n) (hn : n ≤ 5) :
    Presents delivery deviceDid (afterCalls delivery deviceDid [deliveryCutAfter n] fresh)
      { ownerDid := ownerDid, kind := KIND_MATA_STATEMENT, bytes := container,
        provisional := decide (3 < n) } := by
  obtain ⟨hadopt, hkind, -, hprov⟩ := after_delivery hn
  rw [if_pos (by omega)] at hadopt hkind
  refine presents_iff.mpr ⟨⟨hadopt, by rw [length_container]; decide⟩, ?_,
    Or.inl ⟨hkind, ⟨delivered, check_delivery, rfl⟩, rfl⟩⟩
  rw [hprov]
  split_ifs with h3
  · exact decide_eq_true h3
  · exact decide_eq_false h3

end EspMid.Adopting.Presented
