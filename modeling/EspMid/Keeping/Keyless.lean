import EspMid.Keeping.SealedFormat

/-! # A sealing store without a key

Without a key a put stores every value as it is, while a read still takes marked bytes for sealed
ones and refuses them. Over an inner store that behaves as a map, the two stores answer alike to a
list of calls if and only if no call reads a marked value (`keyless_is_invisible_iff`): a step
answers alike or reads one (`answer_eq_iff`), and leaves the same stores either way
(`stores_eq`). -/

namespace EspMid.Keeping.Keyless

open EspMid.Lib.StoreProg EspMid.Model.Core EspMid.Model.Seal
open EspMid.Keeping.SealedStore EspMid.Keeping.SealedFormat

/-- A call of a store. -/
inductive Op where
  | get (key : String) (out : Bytes)
  | put (key : String) (value : Bytes)
  | remove (key : String)

/-- What it answers; a read also leaves its buffer. -/
inductive Answer where
  | got (r : Result (Option ℕ)) (out : Bytes)
  | put (r : Result Unit)
  | removed (r : Result Bool)

variable {S : Type}

/-- The call, made of the sealing store. -/
def Op.sealed (A : Aes256Gcm) (kv : SealedKv S) : Op → KvTotal S Answer
  | .get key out => Prog.bind (kv.getInto A key out) fun r => .ret (.got r.1 r.2)
  | .put key value => Prog.bind (kv.put A key value) fun r => .ret (.put r)
  | .remove key => Prog.bind (kv.remove key) fun r => .ret (.removed r)

/-- The call, made of the inner store. -/
def Op.plain (inner : S) : Op → KvTotal S Answer
  | .get key out => Prog.bind (readInto inner key out) fun r => .ret (.got r.1 r.2)
  | .put key value => .put inner key value fun r => .ret (.put r)
  | .remove key => .remove inner key fun r => .ret (.removed r)

section Runs
variable [DecidableEq S]

/-- The answers to a list of calls, and the stores after them. -/
def runAll (serve : Op → KvTotal S Answer) : List Op → KvStores S → List Answer × KvStores S
  | [], σ => ([], σ)
  | op :: ops, σ =>
    let (a, σ') := (serve op).run σ
    let (as, σ'') := runAll serve ops σ'
    (a :: as, σ'')

variable {A : Aes256Gcm} {inner : S} {σ : KvStores S}

/-- The call reads a marked value. -/
def ReadsMarked (inner : S) (σ : KvStores S) (op : Op) : Prop :=
  ∃ key out v, op = .get key out ∧ σ inner key = some v ∧ marked v = true

theorem run_get (kv : SealedKv S) (key : String) (out : Bytes) (σ : KvStores S) :
    ((Op.get key out).sealed A kv).run σ =
      (.got (fill out (reading A kv key (σ kv.inner key) out.length)).1
        (fill out (reading A kv key (σ kv.inner key) out.length)).2, σ) := by
  have hexec := (exec_calm (kv.getInto A key out) σ).symm.trans
    (exec_readingInto (A := A) (fun _ => rfl) σ key out)
  simp only [Prod.mk.injEq, Option.some.injEq] at hexec
  refine (run_bind _ _ σ).trans ?_
  rw [hexec.1, hexec.2]
  rfl

omit [DecidableEq S] in
/-- A keyless read is the inner store's, except that it refuses what is marked. -/
theorem reading_keyless (key : String) (v : Bytes) (cap : ℕ) :
    reading A ⟨inner, none⟩ key (some v) cap =
      if marked v then .error .crypto else copyOut v cap := rfl

/-- **Step.** The two stores answer a call alike unless it reads a marked value, -/
theorem answer_eq_iff (op : Op) :
    ((op.sealed A ⟨inner, none⟩).run σ).1 = ((op.plain inner).run σ).1 ↔
      ¬ ReadsMarked inner σ op := by
  cases op with
  | get key out =>
    have hplain : ((Op.get key out).plain inner).run σ =
        (.got (fill out (σ.read inner key out.length)).1
          (fill out (σ.read inner key out.length)).2, σ) := rfl
    rw [run_get, hplain]
    cases hv : σ inner key with
    | none =>
      have hnot : ¬ ReadsMarked inner σ (.get key out) := by
        rintro ⟨key', out', v, hop, hheld, -⟩
        cases hop
        rw [hv] at hheld
        cases hheld
      rw [read_of_none hv]
      exact iff_of_true rfl hnot
    | some v =>
      have hreads : ReadsMarked inner σ (.get key out) ↔ marked v = true := by
        constructor
        · rintro ⟨key', out', v', hop, hheld, hmark⟩
          cases hop
          rw [hv] at hheld
          cases hheld
          exact hmark
        · exact fun hmark => ⟨key, out, v, rfl, hv, hmark⟩
      rw [read_of_some hv, reading_keyless, hreads]
      cases hmark : marked v with
      | true =>
        simp only [not_true_eq_false, iff_false, if_true]
        intro heq
        rw [fill_copyOut] at heq
        have hrefused : Except.error Error.crypto = (copyInto v out).1 := (Answer.got.inj heq).1
        -- a refusal is no value, and no complaint about the buffer
        unfold copyInto at hrefused
        split_ifs at hrefused
        cases hrefused
      | false => exact iff_of_true rfl (by simp)
  | put key value =>
    refine iff_of_true rfl ?_
    rintro ⟨key', out', v, hop, -⟩
    cases hop
  | remove key =>
    refine iff_of_true rfl ?_
    rintro ⟨key', out', v, hop, -⟩
    cases hop

/-- and leave the same stores. -/
theorem stores_eq (op : Op) :
    ((op.sealed A ⟨inner, none⟩).run σ).2 = ((op.plain inner).run σ).2 := by
  cases op with
  | get key out => rw [run_get]; rfl
  | put key value => rfl
  | remove key => rfl

/-! ### Runs -/

/-- The stores after a list of calls of the inner store. -/
def after (inner : S) (ops : List Op) (σ : KvStores S) : KvStores S :=
  (runAll (Op.plain inner) ops σ).2

/-- **Run.** -/
theorem runAll_eq_iff (ops : List Op) :
    ∀ σ : KvStores S, (runAll (Op.sealed A ⟨inner, none⟩) ops σ).1 =
        (runAll (Op.plain inner) ops σ).1 ↔
      ∀ pre op post, ops = pre ++ op :: post → ¬ ReadsMarked inner (after inner pre σ) op := by
  induction ops with
  | nil => exact fun σ => iff_of_true rfl fun pre op post h => by simp at h
  | cons op ops ih =>
    intro σ
    simp only [runAll, List.cons.injEq, stores_eq, answer_eq_iff, ih]
    constructor
    · rintro ⟨hop, hops⟩ pre op' post heq
      cases pre with
      | nil =>
        obtain ⟨rfl, -⟩ := List.cons_eq_cons.mp heq
        exact hop
      | cons p pre =>
        obtain ⟨rfl, hrest⟩ := List.cons_eq_cons.mp heq
        exact hops pre op' post hrest
    · intro h
      exact ⟨h [] op ops rfl, fun pre op' post heq => h (op :: pre) op' post (congrArg _ heq)⟩

/-- **Without a key the store is invisible to exactly the runs that read no marked value.** Over an
empty inner store that behaves as a map, a list of calls is answered as by the inner store alone if
and only if no read in it finds a value of at most `MAX_VALUE` and `OVERHEAD` bytes that begins with
`MAGIC`. -/
theorem keyless_is_invisible_iff (A : Aes256Gcm) (inner : S) (ops : List Op) :
    (runAll (Op.sealed A ⟨inner, none⟩) ops fun _ _ => none).1 =
        (runAll (Op.plain inner) ops fun _ _ => none).1 ↔
      ∀ pre key out post, ops = pre ++ .get key out :: post →
        ∀ v, after inner pre (fun _ _ => none) inner key = some v →
          ¬ (v.length ≤ MAX_VALUE + OVERHEAD ∧ startsWithMagic v = true) := by
  have hmarked : ∀ v, marked v = true ↔
      v.length ≤ MAX_VALUE + OVERHEAD ∧ startsWithMagic v = true := by
    intro v
    unfold marked
    rw [Bool.and_eq_true, decide_eq_true_iff]
  rw [runAll_eq_iff]
  constructor
  · intro h pre key out post heq v hv hmark
    exact h pre _ post heq ⟨key, out, v, rfl, hv, (hmarked v).mpr hmark⟩
  · rintro h pre op post heq ⟨key, out, v, rfl, hv, hmark⟩
    exact h pre key out post heq v hv ((hmarked v).mp hmark)

end Runs

/-! ### A device secret -/

/-- A secret whose first bytes are those of `MAGIC`. -/
def secret : Bytes := MAGIC ++ List.replicate 28 5

def keepSecret : List Op := [.put "mid.devkey" secret, .get "mid.devkey" (List.replicate 32 0)]

/-- It is put, and does not read back. -/
theorem secret_does_not_read_back :
    (runAll (Op.sealed cipher ⟨(), none⟩) keepSecret fun _ _ => none).1 =
        [.put (.ok ()), .got (.error .crypto) (List.replicate 32 0)] ∧
      (runAll (Op.plain ()) keepSecret fun _ _ => none).1 =
        [.put (.ok ()), .got (.ok (some 32)) secret] ∧
      (runAll (Op.sealed cipher ⟨(), none⟩) keepSecret fun _ _ => none).1 ≠
        (runAll (Op.plain ()) keepSecret fun _ _ => none).1 := by
  have hsealed : (runAll (Op.sealed cipher ⟨(), none⟩) keepSecret fun _ _ => none).1 =
      [.put (.ok ()), .got (.error .crypto) (List.replicate 32 0)] := rfl
  have hplain : (runAll (Op.plain ()) keepSecret fun _ _ => none).1 =
      [.put (.ok ()), .got (.ok (some 32)) secret] := rfl
  refine ⟨hsealed, hplain, ?_⟩
  rw [hsealed, hplain]
  simp

end EspMid.Keeping.Keyless
