import EspMid.Keeping.Keyless
import EspMid.Model.Nvs

/-! # A failed write to NVS

A namespace reads as a map of byte strings, whatever the types of its keys (`get_calm`). A write to
a key that holds no string is a write to that map: done, or failed and without effect. A string is
removed before the blob is stored, so where only the second step fails the old value is gone
(`Loses`); a failed write keeps what it found exactly where it does not come to that
(`failed_put_keeps_iff`), and calls that do not come to that are a run of the store model, whatever
fails in them (`run_refines`). -/

namespace EspMid.Keeping.NvsWrites

open EspMid.Lib.StoreProg
open EspMid.Model.Core EspMid.Model.Nvs EspMid.Model.Seal
open EspMid.Keeping.Keyless

variable {checkKey : String → Result Unit} {n n' : Namespace} {F : Failures} {key : String}

/-! ### The map of byte strings -/

/-- The bytes of a stored value. -/
def bytesOf : NvsValue → Bytes
  | .str s => asBytes s
  | .blob b => b

/-- A namespace as a map of byte strings. -/
def plain (n : Namespace) (key : String) : Option Bytes := (n key).map bytesOf

@[simp] theorem set_self (n : Namespace) (key : String) (v : Option NvsValue) :
    n.set key v key = v := if_pos rfl

theorem set_of_ne {k : String} (h : k ≠ key) (v : Option NvsValue) : n.set key v k = n k :=
  if_neg h

theorem get_congr (h : n' key = n key) (G : Failures) (out : Bytes) :
    EspNvsKv.get checkKey n' G key out = EspNvsKv.get checkKey n G key out := by
  unfold EspNvsKv.get EspNvsKv.getStrValue Namespace.blobLen Namespace.getBlob Namespace.strLen
    Namespace.getStr
  rw [h]

/-- **A namespace reads as a map of byte strings.** -/
theorem get_calm (h : checkKey key = .ok ()) (out : Bytes) :
    EspNvsKv.get checkKey n calm key out =
      match plain n key with
      | none => (.ok none, out)
      | some v => copyInto v out := by
  unfold EspNvsKv.get EspNvsKv.getStrValue Namespace.blobLen Namespace.getBlob Namespace.strLen
    Namespace.getStr plain copyInto
  simp only [h, Failures.answer, calm]
  cases n key with
  | none => rfl
  | some v =>
    cases v with
    | blob b =>
      simp only [Option.map_some, bytesOf]
      by_cases hle : b.length ≤ out.length
      · simp only [if_pos hle, if_neg (Nat.not_lt.mpr hle)]
      · simp only [if_neg hle, if_pos (Nat.not_le.mp hle)]
    | str s =>
      simp only [Option.map_some, bytesOf, Nat.add_sub_cancel, byteLen]
      by_cases hle : (asBytes s).length ≤ out.length
      · simp only [if_pos hle, if_neg (Nat.not_lt.mpr hle), le_max_left, if_true]
      · simp only [if_neg hle, if_pos (Nat.not_le.mp hle)]

/-! ### What a write does -/

/-- The write that loses a string: it is removed, and the blob is not stored. -/
structure Loses (checkKey : String → Result Unit) (n : Namespace) (F : Failures) (key : String) :
    Prop where
  accepted : checkKey key = .ok ()
  string : ∃ s, n key = some (.str s)
  seen : F .strLen = none
  removed : F .remove = none
  failed : F .setBlob ≠ none

theorem strLen_of_str {s : String} (h : n key = some (.str s)) (hseen : F .strLen = none) :
    n.strLen F key = .ok (some (byteLen s + 1)) := by
  unfold Namespace.strLen Failures.answer
  simp only [hseen, h]

theorem strLen_of_not_str (h : ¬ ∃ s, n key = some (.str s)) (hseen : F .strLen = none) :
    n.strLen F key = .ok none := by
  unfold Namespace.strLen Failures.answer
  simp only [hseen]
  split
  · exact absurd ⟨_, ‹_›⟩ h
  · rfl

theorem putBlob_eq (n : Namespace) (F : Failures) (key : String) (value : Bytes) :
    EspNvsKv.putBlob n F key value =
      match F .setBlob with
      | some e => (.error (map e), n)
      | none => (.ok (), n.set key (some (.blob value))) := by
  unfold EspNvsKv.putBlob Namespace.setBlob
  cases F .setBlob <;> rfl

theorem set_set (n : Namespace) (key : String) (v w : Option NvsValue) :
    (n.set key v).set key w = n.set key w := by
  funext k
  unfold Namespace.set
  split_ifs <;> rfl

theorem put_of_loses (h : Loses checkKey n F key) (value : Bytes) :
    ∃ e, EspNvsKv.put checkKey n F key value = (.error e, n.set key none) := by
  obtain ⟨s, hs⟩ := h.string
  obtain ⟨e, he⟩ := Option.ne_none_iff_exists'.mp h.failed
  refine ⟨map e, ?_⟩
  unfold EspNvsKv.put Namespace.remove
  simp only [h.accepted, strLen_of_str hs h.seen, h.removed, putBlob_eq, he]

/-- **What a write does**: it fails without effect, it stores the blob, or it loses a string. -/
theorem put_cases (checkKey : String → Result Unit) (n : Namespace) (F : Failures) (key : String)
    (value : Bytes) :
    (∃ e, EspNvsKv.put checkKey n F key value = (.error e, n)) ∨
      (checkKey key = .ok () ∧
        EspNvsKv.put checkKey n F key value = (.ok (), n.set key (some (.blob value)))) ∨
      Loses checkKey n F key := by
  unfold EspNvsKv.put
  cases hkey : checkKey key with
  | error e => exact Or.inl ⟨e, rfl⟩
  | ok _ =>
    cases hseen : F .strLen with
    | some e =>
      have hlen : n.strLen F key = .error e := by
        unfold Namespace.strLen Failures.answer
        simp only [hseen]
      simp only [hlen]
      exact Or.inl ⟨map e, rfl⟩
    | none =>
      by_cases hstring : ∃ s, n key = some (.str s)
      · obtain ⟨s, hs⟩ := hstring
        simp only [strLen_of_str hs hseen, Namespace.remove]
        cases hremove : F .remove with
        | some e => exact Or.inl ⟨map e, rfl⟩
        | none =>
          simp only [putBlob_eq]
          cases hset : F .setBlob with
          | some e =>
            have hfailed : F .setBlob ≠ none := by simp [hset]
            exact Or.inr (Or.inr ⟨hkey, ⟨s, hs⟩, hseen, hremove, hfailed⟩)
          | none =>
            simp only [set_set]
            exact Or.inr (Or.inl ⟨trivial, trivial⟩)
      · -- nothing is removed
        simp only [strLen_of_not_str hstring hseen, putBlob_eq]
        cases hset : F .setBlob with
        | some e => exact Or.inl ⟨map e, rfl⟩
        | none => exact Or.inr (Or.inl ⟨trivial, rfl⟩)

/-! ### Writes to the map of byte strings -/

theorem plain_set (n : Namespace) (key : String) (v : Option NvsValue) :
    (fun _ : Unit => plain (n.set key v)) =
      Stores.set (fun _ => plain n) () key (v.map bytesOf) := by
  funext _ k
  unfold plain Namespace.set
  rw [Stores.set_apply]
  by_cases hk : k = key
  · simp only [hk, if_true, and_true]
  · simp only [if_neg hk, if_neg fun h : _ ∧ k = key => hk h.2]

/-- **A write that loses no string** is a write of the store model: done or failed. -/
theorem put_refines (h : ¬ Loses checkKey n F key) (value : Bytes) :
    ∃ G : KvFaults, Prog.exec (Proc.put () key value) G (fun _ => plain n) =
      (some (EspNvsKv.put checkKey n F key value).1,
        fun _ => plain (EspNvsKv.put checkKey n F key value).2) := by
  rcases put_cases checkKey n F key value with ⟨e, hput⟩ | ⟨-, hput⟩ | hloses
  · exact ⟨{ Faults.calm with write := fun _ => .failed e }, by rw [hput]; rfl⟩
  · exact ⟨Faults.calm, by rw [hput, plain_set]; rfl⟩
  · exact absurd hloses h

/-! ### Runs -/

/-- The key of a call. -/
def keyOf : Op → String
  | .get key _ => key
  | .put key _ => key
  | .remove key => key

/-- A call made of the driver's store: its answer, and the namespace after it. -/
def serve (checkKey : String → Result Unit) (n : Namespace) (F : Failures) : Op → Answer × Namespace
  | .get key out =>
    let w := EspNvsKv.get checkKey n F key out
    (.got w.1 w.2, n)
  | .put key value =>
    let w := EspNvsKv.put checkKey n F key value
    (.put w.1, w.2)
  | .remove key =>
    let w := EspNvsKv.remove checkKey n F key
    (.removed w.1, w.2)

/-- Calls one after another, each with the driver's calls that fail in it. -/
def serveAll (checkKey : String → Result Unit) :
    List (Op × Failures) → Namespace → List Answer × Namespace
  | [], n => ([], n)
  | c :: cs, n =>
    let w := serve checkKey n c.2 c.1
    let ws := serveAll checkKey cs w.2
    (w.1 :: ws.1, ws.2)

/-- No put of the calls loses a string. -/
def LosesNone (checkKey : String → Result Unit) : List (Op × Failures) → Namespace → Prop
  | [], _ => True
  | c :: cs, n =>
    (∀ key value, c.1 = .put key value → ¬ Loses checkKey n c.2 key) ∧
      LosesNone checkKey cs (serve checkKey n c.2 c.1).2

/-- The calls, made of a store of the store model. -/
def made : List Op → KvTotal Unit (List Answer)
  | [] => .ret []
  | op :: ops => Prog.bind (op.plain ()) fun a => Prog.bind (made ops) fun as => .ret (a :: as)

/-- What a call answers that fails. -/
def failed (e : Error) : Op → Answer
  | .get _ out => .got (.error e) out
  | .put _ _ => .put (.error e)
  | .remove _ => .removed (.error e)

/-- The faults of a call that is done, or fails with `e`, and then the faults `G`. -/
def after (e : Option Error) (G : KvFaults) : Op → KvFaults
  | .get _ _ => G.consRead e
  | _ => G.consWrite (e.elim .done .failed)

theorem answer_cases {α : Type} (F : Failures) (call : Call) (a : Except EspError α) :
    (∃ e, F.answer call a = .error e) ∨ F.answer call a = calm.answer call a := by
  unfold Failures.answer
  cases F call with
  | some e => exact Or.inl ⟨e, rfl⟩
  | none => exact Or.inr rfl

theorem getStrValue_cases (n : Namespace) (F : Failures) (key : String) (out : Bytes) :
    (∃ e, EspNvsKv.getStrValue n F key out = (.error e, out)) ∨
      EspNvsKv.getStrValue n F key out = EspNvsKv.getStrValue n calm key out := by
  unfold EspNvsKv.getStrValue
  obtain ⟨e, he⟩ | hlen : (∃ e, n.strLen F key = .error e) ∨
      n.strLen F key = n.strLen calm key := answer_cases F .strLen _
  · exact Or.inl ⟨map e, by simp only [he]⟩
  · rw [hlen]
    rcases n.strLen calm key with e | _ | withNul
    · exact Or.inr rfl
    · exact Or.inr rfl
    · simp only
      split_ifs with hshort
      · exact Or.inr rfl
      · obtain ⟨e, he⟩ | hstr : (∃ e, n.getStr F key (max withNul 1) = .error e) ∨
            n.getStr F key (max withNul 1) = n.getStr calm key (max withNul 1) :=
          answer_cases F .getStr _
        · exact Or.inl ⟨map e, by simp only [he]⟩
        · exact Or.inr (by rw [hstr])

/-- **What a read does**: it fails, and leaves the buffer, or it answers as if no call failed. -/
theorem get_cases (checkKey : String → Result Unit) (n : Namespace) (F : Failures) (key : String)
    (out : Bytes) :
    (∃ e, EspNvsKv.get checkKey n F key out = (.error e, out)) ∨
      (checkKey key = .ok () ∧
        EspNvsKv.get checkKey n F key out = EspNvsKv.get checkKey n calm key out) := by
  unfold EspNvsKv.get
  cases hkey : checkKey key with
  | error e => exact Or.inl ⟨e, rfl⟩
  | ok _ =>
    simp only
    obtain ⟨e, he⟩ | hlen : (∃ e, n.blobLen F key = .error e) ∨
        n.blobLen F key = n.blobLen calm key := answer_cases F .blobLen _
    · exact Or.inl ⟨map e, by simp only [he]⟩
    · rw [hlen]
      rcases n.blobLen calm key with e | _ | len
      · exact Or.inr ⟨trivial, rfl⟩
      · exact (getStrValue_cases n F key out).imp_right fun h => ⟨trivial, h⟩
      · simp only
        split_ifs with hshort
        · exact Or.inr ⟨trivial, rfl⟩
        · obtain ⟨e, he⟩ | hblob : (∃ e, n.getBlob F key out.length = .error e) ∨
              n.getBlob F key out.length = n.getBlob calm key out.length :=
            answer_cases F .getBlob _
          · exact Or.inl ⟨map e, by simp only [he]⟩
          · exact Or.inr ⟨trivial, by rw [hblob]⟩

theorem put_calm (h : checkKey key = .ok ()) (value : Bytes) :
    EspNvsKv.put checkKey n calm key value = (.ok (), n.set key (some (.blob value))) := by
  unfold EspNvsKv.put
  by_cases hstring : ∃ s, n key = some (.str s)
  · obtain ⟨s, hs⟩ := hstring
    simp only [h, strLen_of_str (F := calm) hs rfl, Namespace.remove, putBlob_eq]
    simp only [calm, set_set]
  · simp only [h, strLen_of_not_str (F := calm) hstring rfl, putBlob_eq]
    simp only [calm]

/-- **What a removal does**: it fails without effect, or it removes the key. -/
theorem remove_cases (checkKey : String → Result Unit) (n : Namespace) (F : Failures)
    (key : String) :
    (∃ e, EspNvsKv.remove checkKey n F key = (.error e, n)) ∨
      (checkKey key = .ok () ∧
        EspNvsKv.remove checkKey n F key = (.ok (n key).isSome, n.set key none)) := by
  unfold EspNvsKv.remove Namespace.remove
  cases checkKey key with
  | error e => exact Or.inl ⟨e, rfl⟩
  | ok _ =>
    cases F .remove with
    | some e => exact Or.inl ⟨map e, rfl⟩
    | none => exact Or.inr ⟨rfl, rfl⟩

theorem remove_calm (h : checkKey key = .ok ()) :
    EspNvsKv.remove checkKey n calm key = (.ok (n key).isSome, n.set key none) := by
  unfold EspNvsKv.remove Namespace.remove
  simp only [h, calm]

/-- **What a call does** that loses no string: it fails without effect, or it does what it does if
no call fails. -/
theorem serve_cases {op : Op} (h : ∀ key value, op = .put key value → ¬ Loses checkKey n F key) :
    (∃ e, serve checkKey n F op = (failed e op, n)) ∨
      (checkKey (keyOf op) = .ok () ∧ serve checkKey n F op = serve checkKey n calm op) := by
  cases op with
  | get key out =>
    rcases get_cases checkKey n F key out with ⟨e, he⟩ | ⟨hkey, heq⟩
    · exact Or.inl ⟨e, by simp only [serve, he, failed]⟩
    · exact Or.inr ⟨hkey, by simp only [serve, heq]⟩
  | put key value =>
    rcases put_cases checkKey n F key value with ⟨e, he⟩ | ⟨hkey, heq⟩ | hloses
    · exact Or.inl ⟨e, by simp only [serve, he, failed]⟩
    · exact Or.inr ⟨hkey, by simp only [serve, heq, put_calm hkey]⟩
    · exact absurd hloses (h key value rfl)
  | remove key =>
    rcases remove_cases checkKey n F key with ⟨e, he⟩ | ⟨hkey, heq⟩
    · exact Or.inl ⟨e, by simp only [serve, he, failed]⟩
    · exact Or.inr ⟨hkey, by simp only [serve, heq, remove_calm hkey]⟩

/-- A read of the store that a namespace is. -/
theorem fill_read (h : checkKey key = .ok ()) (out : Bytes) :
    fill out (Stores.read (fun _ : Unit => plain n) () key out.length) =
      EspNvsKv.get checkKey n calm key out := by
  rw [get_calm h]
  simp only [Stores.read, copyInto]
  cases plain n key with
  | none => rfl
  | some v =>
    simp only
    split_ifs
    · rfl
    · rfl

theorem exec_done {α : Type} {op : Op} (h : checkKey (keyOf op) = .ok ()) (G : KvFaults)
    (f : Answer → KvTotal Unit α) :
    Prog.exec (Prog.bind (op.plain ()) f) (after none G op) (fun _ => plain n) =
      Prog.exec (f (serve checkKey n calm op).1) G
        (fun _ => plain (serve checkKey n calm op).2) := by
  cases op with
  | get key out =>
    have hkey : checkKey key = .ok () := h
    simp only [serve, ← fill_read (n := n) hkey out]
    rfl
  | put key value =>
    have hkey : checkKey key = .ok () := h
    simp only [serve, put_calm hkey, plain_set]
    rfl
  | remove key =>
    have hkey : checkKey key = .ok () := h
    have hheld : (plain n key).isSome = (n key).isSome := by simp [plain]
    simp only [serve, remove_calm hkey, plain_set, ← hheld]
    rfl

theorem exec_failed {α : Type} (e : Error) (op : Op) (G : KvFaults) (σ : KvStores Unit)
    (f : Answer → KvTotal Unit α) :
    Prog.exec (Prog.bind (op.plain ()) f) (after (some e) G op) σ =
      Prog.exec (f (failed e op)) G σ := by
  cases op <;> rfl

/-- **A call is a call of the store model**, done or failed. -/
theorem serve_refines {op : Op}
    (h : ∀ key value, op = .put key value → ¬ Loses checkKey n F key) :
    ∃ e, (checkKey (keyOf op) = .ok () ∧ F = calm → e = none) ∧
      ∀ (G : KvFaults) (f : Answer → KvTotal Unit (List Answer)),
        Prog.exec (Prog.bind (op.plain ()) f) (after e G op) (fun _ => plain n) =
          Prog.exec (f (serve checkKey n F op).1) G
            (fun _ => plain (serve checkKey n F op).2) := by
  by_cases hdone : checkKey (keyOf op) = .ok () ∧ serve checkKey n F op = serve checkKey n calm op
  · refine ⟨none, fun _ => rfl, fun G f => ?_⟩
    rw [hdone.2]
    exact exec_done hdone.1 G f
  · obtain ⟨e, he⟩ := (serve_cases h).resolve_right hdone
    refine ⟨some e, fun hcalm => absurd ⟨hcalm.1, by rw [hcalm.2]⟩ hdone, fun G f => ?_⟩
    rw [he]
    exact exec_failed e op G _ f

theorem noCut_after {e : Option Error} {G : KvFaults} (h : G.NoCut) (op : Op) :
    (after e G op).NoCut := by
  have hfate : (e.elim .done .failed : Fate Error) ≠ .cut := by
    cases e <;> exact nofun
  cases op with
  | get key out => exact h
  | put key value => exact h.consWrite hfate
  | remove key => exact h.consWrite hfate

theorem after_calm (op : Op) : after none Faults.calm op = Faults.calm := by
  cases op with
  | get key out => exact Faults.consRead_calm
  | put key value => exact Faults.consWrite_calm
  | remove key => exact Faults.consWrite_calm

/-- **The driver's store is a store.** Calls of which no put loses a string, whatever calls of the
driver fail in them, are a run of the store model without a cut: the same answers, and the same
values left. Where no call of the driver fails and every key is accepted, nothing fails in it. -/
theorem run_refines (checkKey : String → Result Unit) (calls : List (Op × Failures))
    (n : Namespace) (h : LosesNone checkKey calls n) :
    ∃ G : KvFaults, G.NoCut ∧
      ((∀ c ∈ calls, checkKey (keyOf c.1) = .ok () ∧ c.2 = calm) → G = Faults.calm) ∧
      Prog.exec (made (calls.map Prod.fst)) G (fun _ => plain n) =
        (some (serveAll checkKey calls n).1, fun _ => plain (serveAll checkKey calls n).2) := by
  induction calls generalizing n with
  | nil => exact ⟨Faults.calm, fun _ => nofun, fun _ => rfl, rfl⟩
  | cons c cs ih =>
    obtain ⟨hfirst, hrest⟩ := h
    obtain ⟨e, hnone, hcall⟩ := serve_refines hfirst
    obtain ⟨G, hcut, hcalm, hrun⟩ := ih _ hrest
    refine ⟨after e G c.1, noCut_after hcut c.1, fun hquiet => ?_, ?_⟩
    · rw [hnone (hquiet c List.mem_cons_self),
        hcalm fun c' hc' => hquiet c' (List.mem_cons_of_mem c hc'), after_calm]
    · refine (hcall G _).trans ?_
      refine (exec_map (made (cs.map Prod.fst)) _ G _).trans ?_
      rw [hrun]
      rfl

/-! ### Keeping the old value -/

/-- **A failed write does not cost the old value**: every key reads as before. A write that succeeds
stores the value, and no other key reads otherwise. -/
def Keeps (checkKey : String → Result Unit) (n : Namespace) (F : Failures) (key : String)
    (value : Bytes) : Prop :=
  ((∃ e, (EspNvsKv.put checkKey n F key value).1 = .error e) → ∀ G k out,
      EspNvsKv.get checkKey (EspNvsKv.put checkKey n F key value).2 G k out =
        EspNvsKv.get checkKey n G k out) ∧
    ((EspNvsKv.put checkKey n F key value).1 = .ok () →
      (∀ out, EspNvsKv.get checkKey (EspNvsKv.put checkKey n F key value).2 calm key out =
        copyInto value out) ∧
      ∀ G k out, k ≠ key →
        EspNvsKv.get checkKey (EspNvsKv.put checkKey n F key value).2 G k out =
          EspNvsKv.get checkKey n G k out)

theorem not_keeps_of_loses (h : Loses checkKey n F key) (value : Bytes) :
    ¬ Keeps checkKey n F key value := by
  rintro ⟨hkeeps, -⟩
  obtain ⟨e, hput⟩ := put_of_loses h value
  obtain ⟨s, hs⟩ := h.string
  rw [hput] at hkeeps
  have hread := hkeeps ⟨e, rfl⟩ calm key (List.replicate (byteLen s) 0)
  have hbefore : plain n key = some (asBytes s) := by simp [plain, hs, bytesOf]
  have hafter : plain (n.set key none) key = none := by simp [plain]
  rw [get_calm h.accepted, get_calm h.accepted, hbefore, hafter] at hread
  have hfits : (asBytes s).length ≤ (List.replicate (byteLen s) (0 : UInt8)).length := by
    rw [List.length_replicate]
    exact le_rfl
  simp only [copyInto, if_pos hfits] at hread
  cases hread

/-- **A failed write keeps the old value** unless it is the write that loses a string. -/
theorem failed_put_keeps_iff (checkKey : String → Result Unit) (n : Namespace) (F : Failures)
    (key : String) (value : Bytes) :
    Keeps checkKey n F key value ↔ ¬ Loses checkKey n F key := by
  constructor
  · exact fun hkeeps hloses => not_keeps_of_loses hloses value hkeeps
  · intro hnot
    unfold Keeps
    rcases put_cases checkKey n F key value with ⟨e, hput⟩ | ⟨hkey, hput⟩ | hloses
    · rw [hput]
      exact ⟨fun _ G k out => rfl, fun hok => by cases hok⟩
    · rw [hput]
      refine ⟨fun ⟨e, he⟩ => (by cases he), fun _ => ⟨fun out => ?_, fun G k out hne => ?_⟩⟩
      · rw [get_calm hkey]
        simp [plain, bytesOf]
      · exact get_congr (set_of_ne hne _) G out
    · exact absurd hloses hnot

/-! ### The passphrase of the provisioning image -/

/-- The network's passphrase, as the image writes it. -/
def provisioned : Namespace := fun key => if key = "wifi.psk" then some (.str "hunter22") else none

/-- The partition is full. -/
def full : Failures := fun call => if call = .setBlob then some .nvsNotEnoughSpace else none

/-- A write that finds no space under a key without a value is a failed write. -/
theorem put_refines_full :
    ∃ G : KvFaults, Prog.exec (Proc.put () "wifi.ssid" [1]) G (fun _ => plain provisioned) =
      (some (EspNvsKv.put (fun _ => .ok ()) provisioned full "wifi.ssid" [1]).1,
        fun _ => plain (EspNvsKv.put (fun _ => .ok ()) provisioned full "wifi.ssid" [1]).2) :=
  put_refines (fun h => by
    obtain ⟨s, hs⟩ := h.string
    simp [provisioned] at hs) [1]

/-- The passphrase is read, a write finds no space, and a blob takes the passphrase's place. -/
def replacing : List (Op × Failures) :=
  [(.get "wifi.psk" (List.replicate 8 0), calm), (.put "wifi.ssid" [1], full),
    (.put "wifi.psk" [1], calm), (.remove "wifi.ssid", calm)]

/-- These calls are a run of the store model. -/
theorem run_refines_replacing :
    ∃ G : KvFaults, G.NoCut ∧
      Prog.exec (made (replacing.map Prod.fst)) G (fun _ => plain provisioned) =
        (some (serveAll (fun _ => .ok ()) replacing provisioned).1,
          fun _ => plain (serveAll (fun _ => .ok ()) replacing provisioned).2) := by
  obtain ⟨G, hcut, -, hrun⟩ := run_refines (fun _ => .ok ()) replacing provisioned (by
    refine ⟨nofun, ?_, ?_, nofun, trivial⟩
    · -- no string under the name of the network
      rintro key value ⟨⟩ h
      obtain ⟨s, hs⟩ := h.string
      simp [serve, provisioned] at hs
    · -- the write over the passphrase does not fail
      rintro key value ⟨⟩ h
      exact h.failed rfl)
  exact ⟨G, hcut, hrun⟩

/-- **The defect.** A write that finds no space leaves no passphrase. -/
theorem passphrase_lost :
    (EspNvsKv.put (fun _ => .ok ()) provisioned full "wifi.psk" [1]).1 =
        .error (.bufferTooSmall 0) ∧
      EspNvsKv.get (fun _ => .ok ()) provisioned calm "wifi.psk" (List.replicate 8 0) =
        (.ok (some 8), asBytes "hunter22") ∧
      EspNvsKv.get (fun _ => .ok ())
          (EspNvsKv.put (fun _ => .ok ()) provisioned full "wifi.psk" [1]).2 calm "wifi.psk"
          (List.replicate 8 0) =
        (.ok none, List.replicate 8 0) := by
  decide +kernel

end EspMid.Keeping.NvsWrites
