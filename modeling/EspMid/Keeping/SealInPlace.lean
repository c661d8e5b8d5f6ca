import Mathlib.Data.Finset.Card
import Mathlib.Data.List.TakeWhile
import Mathlib.Data.Finset.Dedup
import EspMid.Keeping.SealedFormat
import EspMid.Lib.StoreHazards

/-! # Sealing in place

The loop over the listed names keeps one invariant: of the names done, those that were in the clear
are sealed, and everything else lies as it did (`SealedUpTo`). An iteration extends it by the name
it is at, or stops there (`under_sealEach`): at a value that cannot be sealed, or where a read, a
write or the random source fails. From that: whatever happens, every value reads as before
(`SealedUpTo.reading_eq`), a count is that of the names that were in the clear, and sealing again
finds nothing to do (`exec_again`). -/

namespace EspMid.Keeping.SealInPlace

open EspMid.Lib.StoreProg EspMid.Model.Core EspMid.Model.Seal
open EspMid.Keeping.SealedStore EspMid.Keeping.SealedFormat

variable {S : Type} {A : Aes256Gcm} {k : Array8 32} {inner : S}

/-! ### One iteration -/

/-- Seal the value of `key`, and go on with the other names. -/
def sealClear (A : Aes256Gcm) (kv : SealedKv S) (n : ℕ) (key : String) (keys : List String) :
    Kv S ℕ := do
  match ← Proc.get kv.inner key MAX_VALUE with
  | none => kv.sealEach A n keys
  | some plain =>
    kv.put A key plain
    kv.sealEach A (n + 1) keys

/-- What follows the answer for `key`. -/
def follow (A : Aes256Gcm) (kv : SealedKv S) (n : ℕ) (key : String) (keys : List String) :
    Result (Option Bool) → Kv S ℕ
  | .ok o => if o = some false then sealClear A kv n key keys else kv.sealEach A n keys
  | .error e => Proc.fail e

theorem sealEach_cons (kv : SealedKv S) (n : ℕ) (key : String) (keys : List String) :
    kv.sealEach A n (key :: keys) =
      Prog.get kv.inner key (MAX_VALUE + OVERHEAD) fun r =>
        follow A kv n key keys (sealedAnswer r) := by
  let next (o : Option Bool) : Kv S ℕ :=
    if o = some false then sealClear A kv n key keys else kv.sealEach A n keys
  refine Eq.trans (b := Proc.bind (kv.isSealed key) next) rfl ?_
  refine (congrArg (fun p => Proc.bind p next) (isSealed_eq kv key)).trans ?_
  refine congrArg (Prog.get kv.inner key (MAX_VALUE + OVERHEAD)) (funext fun r => ?_)
  simp only [Prog.bind]
  cases sealedAnswer r with
  | ok o => rfl
  | error e => rfl

/-! ### The invariant -/

/-- The name holds a value that `isSealed` does not know for a sealed one. -/
def isClear (inner : S) (σ : KvStores S) (name : String) : Bool :=
  (σ inner name).any fun v => !marked v

/-- Of the names `done`, those that were in the clear are sealed; all else lies as it did. -/
structure SealedUpTo (A : Aes256Gcm) (inner : S) (k : Array8 32) (σ τ : KvStores S)
    (done : List String) : Prop where
  sealed : ∀ name ∈ done, ∀ v, σ inner name = some v → marked v = false →
    ∃ raw, τ inner name = some raw ∧ Seals A k name v raw
  kept : ∀ name, name ∉ done ∨ isClear inner σ name = false → τ inner name = σ inner name
  others : ∀ s, s ≠ inner → τ s = σ s

theorem sealedUpTo_nil (σ : KvStores S) : SealedUpTo A inner k σ σ [] where
  sealed _ h := absurd h List.not_mem_nil
  kept _ _ := rfl
  others _ _ := rfl

theorem isClear_eq_true {σ : KvStores S} {name : String} :
    isClear inner σ name = true ↔ ∃ v, σ inner name = some v ∧ marked v = false := by
  unfold isClear
  cases σ inner name with
  | none => simp
  | some v => simp

theorem marked_of_seals {name : String} {v raw : Bytes} (h : Seals A k name v raw) :
    v.length ≤ MAX_VALUE ∧ marked raw = true ∧
      ∃ nonce body tag, A.encrypt k nonce (asBytes name) v = some (body, tag) ∧
        raw = sealedValue nonce body tag := by
  obtain ⟨holds, magic, -⟩ := h
  generalize hraw : some raw = r at holds
  generalize hv : some v = o at holds
  cases holds with
  | absent => cases hraw
  | clear hclear =>
    cases hraw
    rw [magic] at hclear
    cases hclear
  | @sealed nonce v' body tag short henc =>
    cases hraw
    cases hv
    refine ⟨short, ?_, nonce, body, tag, henc, rfl⟩
    unfold marked
    rw [decide_eq_true (length_sealed_le short henc), startsWithMagic_sealedValue]
    rfl

namespace SealedUpTo

variable {σ τ : KvStores S} {done : List String} {key : String}

theorem isClear_iff (h : SealedUpTo A inner k σ τ done) (name : String) :
    isClear inner τ name = true ↔ isClear inner σ name = true ∧ name ∉ done := by
  by_cases hkept : name ∉ done ∨ isClear inner σ name = false
  · have hsame : isClear inner τ name = isClear inner σ name := by
      unfold isClear
      rw [h.kept name hkept]
    rw [hsame]
    rcases hkept with hnot | hnot
    · simp [hnot]
    · simp [hnot]
  · rw [not_or, not_not, Bool.not_eq_false] at hkept
    obtain ⟨hdone, hclear⟩ := hkept
    obtain ⟨v, hv, hmark⟩ := isClear_eq_true.mp hclear
    obtain ⟨raw, hraw, hseals⟩ := h.sealed name hdone v hv hmark
    have hsealed : isClear inner τ name = false := by
      unfold isClear
      rw [hraw]
      simp [(marked_of_seals hseals).2.1]
    simp [hsealed, hdone]

theorem mem_of_not_clear (h : SealedUpTo A inner k σ τ done) (hkey : isClear inner τ key = false)
    (hclear : isClear inner σ key = true) : key ∈ done := by
  by_contra hnot
  rw [(h.isClear_iff key).mpr ⟨hclear, hnot⟩] at hkey
  cases hkey

/-- **Step**, past a name that is not in the clear. -/
theorem skip (h : SealedUpTo A inner k σ τ done) (hkey : isClear inner τ key = false) :
    SealedUpTo A inner k σ τ (done ++ [key]) := by
  refine ⟨fun name hname v hv hmark => ?_, fun name hname => h.kept name ?_, h.others⟩
  · have hclear : isClear inner σ name = true := isClear_eq_true.mpr ⟨v, hv, hmark⟩
    rcases List.mem_append.mp hname with hmem | hmem
    · exact h.sealed name hmem v hv hmark
    · rw [List.mem_singleton.mp hmem] at hclear hv ⊢
      exact h.sealed key (h.mem_of_not_clear hkey hclear) v hv hmark
  · exact hname.imp_left fun hnot hmem => hnot (List.mem_append_left _ hmem)

/-- **Step**, over the name just sealed. -/
theorem sealing [DecidableEq S] (h : SealedUpTo A inner k σ τ done) {v raw : Bytes}
    (hv : τ inner key = some v) (hmark : marked v = false) (hseals : Seals A k key v raw) :
    SealedUpTo A inner k σ (τ.set inner key (some raw)) (done ++ [key]) := by
  have hkey := (h.isClear_iff key).mp (isClear_eq_true.mpr ⟨v, hv, hmark⟩)
  have hσ : σ inner key = some v := (h.kept key (Or.inl hkey.2)).symm.trans hv
  refine ⟨fun name hname v' hv' hmark' => ?_, fun name hname => ?_, fun s hs => ?_⟩
  · by_cases heq : name = key
    · subst heq
      rw [hσ] at hv'
      cases hv'
      exact ⟨raw, Stores.set_self _ _ _ _, hseals⟩
    · rw [Stores.set_of_key_ne heq]
      have hmem : name ∈ done := by simpa [heq] using hname
      exact h.sealed name hmem v' hv' hmark'
  · have heq : name ≠ key := by
      rintro rfl
      rcases hname with hnot | hnot
      · exact hnot (by simp)
      · rw [hkey.1] at hnot
        cases hnot
    rw [Stores.set_of_key_ne heq]
    exact h.kept name (hname.imp_left fun hnot hmem => hnot (List.mem_append_left _ hmem))
  · funext name
    rw [Stores.set_of_store_ne hs, h.others s hs]

/-- **Every value reads as before.** -/
theorem reading_eq (hA : A.Opens) (h : SealedUpTo A inner k σ τ done) (name : String) (cap : ℕ) :
    reading A ⟨inner, some k⟩ name (τ inner name) cap =
      reading A ⟨inner, some k⟩ name (σ inner name) cap := by
  by_cases hkept : name ∉ done ∨ isClear inner σ name = false
  · rw [h.kept name hkept]
  · rw [not_or, not_not, Bool.not_eq_false] at hkept
    obtain ⟨hdone, hclear⟩ := hkept
    obtain ⟨v, hv, hmark⟩ := isClear_eq_true.mp hclear
    obtain ⟨raw, hraw, hseals⟩ := h.sealed name hdone v hv hmark
    obtain ⟨-, hsealed, nonce, body, tag, henc, rfl⟩ := marked_of_seals hseals
    rw [hraw, hv]
    unfold reading
    simp only [hsealed, hmark, if_true]
    exact openSealed_sealedValue hA rfl henc cap

end SealedUpTo

/-! ### The count -/

/-- How many of the names, without repeats, were in the clear. -/
def clearCount (inner : S) (σ : KvStores S) (names : List String) : ℕ :=
  (names.toFinset.filter fun name => isClear inner σ name = true).card

theorem clearCount_skip {σ : KvStores S} {done : List String} {key : String}
    (h : isClear inner σ key = true → key ∈ done) :
    clearCount inner σ (done ++ [key]) = clearCount inner σ done := by
  unfold clearCount
  congr 1
  ext name
  simp only [Finset.mem_filter, List.mem_toFinset, List.mem_append, List.mem_singleton]
  constructor
  · rintro ⟨hmem | rfl, hclear⟩
    · exact ⟨hmem, hclear⟩
    · exact ⟨h hclear, hclear⟩
  · exact fun hmem => ⟨Or.inl hmem.1, hmem.2⟩

theorem clearCount_seal {σ : KvStores S} {done : List String} {key : String}
    (hclear : isClear inner σ key = true) (hnot : key ∉ done) :
    clearCount inner σ (done ++ [key]) = clearCount inner σ done + 1 := by
  unfold clearCount
  have hfresh : key ∉ done.toFinset.filter fun name => isClear inner σ name = true := by
    simp [hnot]
  rw [← Finset.card_insert_of_notMem hfresh]
  congr 1
  ext name
  simp only [Finset.mem_filter, Finset.mem_insert, List.mem_toFinset, List.mem_append,
    List.mem_singleton]
  constructor
  · rintro ⟨hmem | rfl, hname⟩
    · exact Or.inr ⟨hmem, hname⟩
    · exact Or.inl rfl
  · rintro (rfl | hmem)
    · exact ⟨Or.inr rfl, hclear⟩
    · exact ⟨Or.inl hmem.1, hmem.2⟩

/-! ### The loop -/

/-- The value under the name is in the clear, and no put takes it. -/
def Unsealable (A : Aes256Gcm) (inner : S) (k : Array8 32) (σ : KvStores S) (key : String) : Prop :=
  ∃ v, σ inner key = some v ∧ marked v = false ∧
    (MAX_VALUE < v.length ∨ ∃ nonce, A.encrypt k nonce (asBytes key) v = none)

/-- Some read, write or draw may fail. -/
def MayFail (H : Hazards UInt8 Error) : Prop :=
  (∃ e, H.read e) ∨ (∃ e, H.write e) ∨ ∃ n e, H.draw n (.error e)

/-- How the loop over `keys` ends, after the names `done`: through them, with the count, or at a
name that cannot be sealed or where something fails. -/
inductive Ends (A : Aes256Gcm) (inner : S) (k : Array8 32) (H : Hazards UInt8 Error)
    (σ : KvStores S) (done keys : List String) : Result ℕ → KvStores S → Prop where
  | finished {τ : KvStores S} (h : SealedUpTo A inner k σ τ (done ++ keys)) :
    Ends A inner k H σ done keys (.ok (clearCount inner σ (done ++ keys))) τ
  | stopped {τ : KvStores S} {e : Error} (pre : List String) (key : String) (rest : List String)
      (split : keys = pre ++ key :: rest) (h : SealedUpTo A inner k σ τ (done ++ pre))
      (why : Unsealable A inner k σ key ∨ MayFail H) :
    Ends A inner k H σ done keys (.error e) τ

variable {H : Hazards UInt8 Error} {σ τ : KvStores S} {done keys : List String} {key : String}

theorem Ends.cons {r : Result ℕ} (h : Ends A inner k H σ (done ++ [key]) keys r τ) :
    Ends A inner k H σ done (key :: keys) r τ := by
  have happ : ∀ l, done ++ [key] ++ l = done ++ key :: l := fun l => by
    rw [List.append_assoc, List.singleton_append]
  cases h with
  | finished h =>
    rw [happ] at h ⊢
    exact .finished h
  | stopped pre key' rest split h why =>
    rw [happ] at h
    exact .stopped (key :: pre) key' rest (congrArg _ split) h why

theorem extend (h : ∃ pre, pre <+: keys ∧ SealedUpTo A inner k σ τ (done ++ [key] ++ pre)) :
    ∃ pre, pre <+: key :: keys ∧ SealedUpTo A inner k σ τ (done ++ pre) := by
  obtain ⟨pre, hpre, h⟩ := h
  rw [List.append_assoc, List.singleton_append] at h
  exact ⟨key :: pre, List.cons_prefix_cons.mpr ⟨rfl, hpre⟩, h⟩

theorem sealedPut_error {v : Bytes} {drawn : Result (Array8 NONCE_LEN)} {e : Error}
    (hdrawn : H.draw NONCE_LEN drawn) (hv : σ inner key = some v) (hmark : marked v = false)
    (h : sealedPut A k key v drawn = .error e) : Unsealable A inner k σ key ∨ MayFail H := by
  unfold sealedPut at h
  split_ifs at h with hlong
  · exact Or.inl ⟨v, hv, hmark, Or.inl hlong⟩
  · split at h
    · exact Or.inr (Or.inr (Or.inr ⟨_, _, hdrawn⟩))
    · next nonce =>
      split at h
      · next henc => exact Or.inl ⟨v, hv, hmark, Or.inr ⟨nonce, henc⟩⟩
      · cases h

section Loop
variable [DecidableEq S]

theorem under_put {value : Bytes} {Q : Result Unit → KvStores S → Prop} {C : KvStores S → Prop}
    (hshort : value.length ≤ MAX_VALUE) (hC : C τ) (hwrite : ∀ e, H.write e → Q (.error e) τ)
    (h : ∀ drawn, H.draw NONCE_LEN drawn →
      match sealedPut A k key value drawn with
      | .ok raw => Q (.ok ()) (τ.set inner key (some raw))
      | .error e => Q (.error e) τ) :
    Prog.under H (SealedKv.put A ⟨inner, some k⟩ key value) Q C τ := by
  refine (congrArg (Prog.under H · Q C τ) (put_eq inner key hshort)).mpr fun drawn hdrawn => ?_
  have hput := h drawn hdrawn
  cases hraw : sealedPut A k key value drawn with
  | error e =>
    simp only [hraw] at hput ⊢
    exact hput
  | ok raw =>
    simp only [hraw] at hput ⊢
    exact ⟨fun _ => hC, hwrite, hput⟩

theorem under_sealClear
    (ih : ∀ {τ : KvStores S}, SealedUpTo A inner k σ τ (done ++ [key]) →
      Prog.under H (SealedKv.sealEach A ⟨inner, some k⟩ (clearCount inner σ (done ++ [key])) keys)
        (Ends A inner k H σ (done ++ [key]) keys)
        (fun τ' => ∃ pre, pre <+: keys ∧ SealedUpTo A inner k σ τ' (done ++ [key] ++ pre)) τ)
    (h : SealedUpTo A inner k σ τ done) {v : Bytes} (hv : τ inner key = some v)
    (hmark : marked v = false) :
    Prog.under H (sealClear A ⟨inner, some k⟩ (clearCount inner σ done) key keys)
      (Ends A inner k H σ done (key :: keys))
      (fun τ' => ∃ pre, pre <+: key :: keys ∧ SealedUpTo A inner k σ τ' (done ++ pre)) τ := by
  obtain ⟨hclear, hnot⟩ := (h.isClear_iff key).mp (isClear_eq_true.mpr ⟨v, hv, hmark⟩)
  have hσ : σ inner key = some v := (h.kept key (Or.inl hnot)).symm.trans hv
  have hstop : ∀ {e : Error}, Unsealable A inner k σ key ∨ MayFail H →
      Ends A inner k H σ done (key :: keys) (.error e) τ := fun why =>
    .stopped [] key keys rfl (by rwa [List.append_nil]) why
  have hcut : ∃ pre, pre <+: key :: keys ∧ SealedUpTo A inner k σ τ (done ++ pre) :=
    ⟨[], List.nil_prefix, by rwa [List.append_nil]⟩
  refine (under_procBind _ _ _ _ τ).mpr ⟨fun e he => ⟨fun _ hr => (by cases hr), fun _ _ =>
    hstop (Or.inr (Or.inl ⟨e, he⟩))⟩, ?_⟩
  rw [read_of_some hv]
  unfold copyOut
  split_ifs with hshort
  · refine ⟨fun o ho => ?_, fun _ hr => by cases hr⟩
    cases ho
    refine (under_procBind _ _ _ _ τ).mpr (under_put hshort hcut
      (fun e he => ⟨fun _ hr => (by cases hr), fun _ _ => hstop (Or.inr (Or.inr (Or.inl ⟨e, he⟩)))⟩)
      fun drawn hdrawn => ?_)
    cases hput : sealedPut A k key v drawn with
    | error e =>
      exact ⟨fun _ hr => (by cases hr), fun _ _ => hstop (sealedPut_error hdrawn hσ hmark hput)⟩
    | ok raw =>
      refine ⟨fun _ _ => ?_, fun _ hr => by cases hr⟩
      have hnext := ih (h.sealing hv hmark (seals_of_sealedPut hput))
      rw [clearCount_seal hclear hnot] at hnext
      exact under_mono (fun _ _ hr => hr.cons) (fun τ' => extend) hnext
  · exact ⟨fun _ hr => (by cases hr), fun _ _ =>
      hstop (Or.inl ⟨v, hσ, hmark, Or.inl (not_le.mp hshort)⟩)⟩

/-- One iteration: the name is not in the clear, or it is, or its read fails. -/
theorem under_follow {n : ℕ} {Q : Result ℕ → KvStores S → Prop} {C : KvStores S → Prop}
    (hread : ∀ e, H.read e → ∀ n, e ≠ .bufferTooSmall n) (herror : ∀ e, H.read e → Q (.error e) τ)
    (hclear : ∀ v, τ inner key = some v → marked v = false →
      Prog.under H (sealClear A ⟨inner, some k⟩ n key keys) Q C τ)
    (hother : isClear inner τ key = false →
      Prog.under H (SealedKv.sealEach A ⟨inner, some k⟩ n keys) Q C τ) :
    Prog.under H (SealedKv.sealEach A ⟨inner, some k⟩ n (key :: keys)) Q C τ := by
  refine (congrArg (fun p => Prog.under H p Q C τ)
    (sealEach_cons ⟨inner, some k⟩ n key keys)).mpr ⟨fun e he => ?_, ?_⟩
  · cases e with
    | bufferTooSmall n => exact absurd rfl (hread _ he n)
    | _ => exact herror _ he
  · have hanswer : sealedAnswer (τ.read inner key (MAX_VALUE + OVERHEAD)) =
        .ok ((τ inner key).map marked) := sealedAnswer_read τ key
    have hfollow := congrArg (follow A ⟨inner, some k⟩ n key keys) hanswer
    refine (congrArg (fun p => Prog.under H p Q C τ) hfollow).mpr ?_
    unfold follow
    simp only
    split_ifs with hsome
    · obtain ⟨v, hv, hmark⟩ := Option.map_eq_some_iff.mp hsome
      exact hclear v hv hmark
    · refine hother (Bool.eq_false_iff.mpr fun htrue => hsome ?_)
      obtain ⟨v, hv, hmark⟩ := isClear_eq_true.mp htrue
      rw [hv, Option.map_some, hmark]

/-- **The loop.** -/
theorem under_sealEach (hread : ∀ e, H.read e → ∀ n, e ≠ .bufferTooSmall n) (keys : List String) :
    ∀ {τ : KvStores S} {done : List String}, SealedUpTo A inner k σ τ done →
      Prog.under H (SealedKv.sealEach A ⟨inner, some k⟩ (clearCount inner σ done) keys)
        (Ends A inner k H σ done keys)
        (fun τ' => ∃ pre, pre <+: keys ∧ SealedUpTo A inner k σ τ' (done ++ pre)) τ := by
  induction keys with
  | nil =>
    intro τ done h
    have hdone : SealedUpTo A inner k σ τ (done ++ []) := by rwa [List.append_nil]
    have hfinished : Ends A inner k H σ done [] (.ok (clearCount inner σ (done ++ []))) τ :=
      .finished hdone
    rw [List.append_nil] at hfinished
    exact hfinished
  | cons key keys ih =>
    intro τ done h
    refine under_follow hread (fun e he => ?_) (fun v hv hmark => under_sealClear ih h hv hmark)
      fun hkey => ?_
    · exact .stopped [] key keys rfl (by rwa [List.append_nil]) (Or.inr (Or.inl ⟨e, he⟩))
    · have hnext := ih (h.skip hkey)
      rw [clearCount_skip (h.mem_of_not_clear hkey)] at hnext
      exact under_mono (fun _ _ hr => hr.cons) (fun τ' => extend) hnext

/-! ### Sealing again -/

theorem exec_isSealed {G : KvFaults} (hG : G.ReadsDone) (kv : SealedKv S) (τ : KvStores S)
    (name : String) :
    Prog.exec (kv.isSealed name) G τ = (some (.ok ((τ kv.inner name).map marked)), τ) := by
  refine (congrArg (fun p => Prog.exec p G τ) (isSealed_eq kv name)).trans ?_
  simp only [Prog.exec, hG 0, sealedAnswer_read]

theorem exec_again (names : List String) (hnames : ∀ name ∈ names, isClear inner τ name = false) :
    ∀ (n : ℕ) (G : KvFaults), G.ReadsDone →
      Prog.exec (SealedKv.sealEach A ⟨inner, some k⟩ n names) G τ = (some (.ok n), τ) ∧
        Prog.writes (SealedKv.sealEach A ⟨inner, some k⟩ n names) G τ = [] := by
  induction names with
  | nil => exact fun n G _ => ⟨rfl, rfl⟩
  | cons name names ih =>
    intro n G hG
    have hfollow : follow A ⟨inner, some k⟩ n name names
        (sealedAnswer (τ.read inner name (MAX_VALUE + OVERHEAD))) =
          SealedKv.sealEach A ⟨inner, some k⟩ n names := by
      have hclear : (τ inner name).map marked ≠ some false := by
        intro hsome
        obtain ⟨v, hv, hmark⟩ := Option.map_eq_some_iff.mp hsome
        have htrue := isClear_eq_true.mpr ⟨v, hv, hmark⟩
        rw [hnames name List.mem_cons_self] at htrue
        cases htrue
      rw [sealedAnswer_read]
      exact if_neg hclear
    have hrest := ih (fun name' h => hnames name' (List.mem_cons_of_mem _ h)) n G.tickRead
      fun i => hG (i + 1)
    have hcons := sealEach_cons (A := A) ⟨inner, some k⟩ n name names
    have hexec : Prog.exec (SealedKv.sealEach A ⟨inner, some k⟩ n (name :: names)) G τ =
        Prog.exec (SealedKv.sealEach A ⟨inner, some k⟩ n names) G.tickRead τ := by
      refine (congrArg (fun p => Prog.exec p G τ) hcons).trans ?_
      simp only [Prog.exec, hG 0, hfollow]
    have hwrites : Prog.writes (SealedKv.sealEach A ⟨inner, some k⟩ n (name :: names)) G τ =
        Prog.writes (SealedKv.sealEach A ⟨inner, some k⟩ n names) G.tickRead τ := by
      refine (congrArg (fun p => Prog.writes p G τ) hcons).trans ?_
      simp only [Prog.writes, hG 0, hfollow]
    rw [hexec, hwrites]
    exact hrest

/-! ### What is kept -/

/-- The reads that fail do not fail for a value's length. -/
def HonestReads (F : KvFaults) : Prop := ∀ i n, F.read i ≠ some (.bufferTooSmall n)

/-- Any read, write or draw may fail, and the power may be cut. -/
def anything : Hazards UInt8 Error where
  read e := ∀ n, e ≠ .bufferTooSmall n
  write _ := True
  cut := True
  draw _ _ := True

theorem within_anything {F : KvFaults} (h : HonestReads F) : F.Within anything where
  read i _ he n heq := h i n (heq ▸ he)
  write _ _ _ := True.intro
  cut _ _ := True.intro
  draw _ _ := True.intro

/-- The stored value is sealed, as the store itself says. -/
def IsSealed (inner : S) (τ : KvStores S) (name : String) : Prop :=
  ∀ (key : Option (Array8 32)) (G : KvFaults), G.ReadsDone →
    Prog.exec (SealedKv.isSealed ⟨inner, key⟩ name) G τ = (some (.ok (some true)), τ)

theorem isSealed_iff : IsSealed inner τ key ↔ ∃ raw, τ inner key = some raw ∧ marked raw = true := by
  constructor
  · intro h
    have hexec := h none Faults.calm fun _ => rfl
    rw [exec_isSealed fun _ => rfl] at hexec
    exact Option.map_eq_some_iff.mp (Except.ok.inj (Option.some.inj (congrArg Prod.fst hexec)))
  · rintro ⟨raw, hraw, hmark⟩ key' G hG
    rw [exec_isSealed hG, hraw, Option.map_some, hmark]

theorem SealedUpTo.isSealed (h : SealedUpTo A inner k σ τ done) (hdone : key ∈ done)
    (hpresent : (σ inner key).isSome) : IsSealed inner τ key := by
  obtain ⟨v, hv⟩ := Option.isSome_iff_exists.mp hpresent
  rw [isSealed_iff]
  cases hmark : marked v with
  | true =>
    have hkept : isClear inner σ key = false := by
      unfold isClear
      rw [hv]
      simp [hmark]
    exact ⟨v, (h.kept key (Or.inr hkept)).trans hv, hmark⟩
  | false =>
    obtain ⟨raw, hraw, hseals⟩ := h.sealed key hdone v hv hmark
    exact ⟨raw, hraw, (marked_of_seals hseals).2.1⟩

/-- The loop's invariant after a run, whatever happens in it. -/
theorem exec_sealInPlace (A : Aes256Gcm) (inner : S) (k : Array8 32) (σ : KvStores S)
    (keys : List String) {F : KvFaults} (hread : ∀ e, H.read e → ∀ n, e ≠ .bufferTooSmall n)
    (hF : F.Within H) :
    let run := Prog.exec (SealedKv.sealInPlace A ⟨inner, some k⟩ keys) F σ
    (∀ r, run.1 = some r → Ends A inner k H σ [] keys r run.2) ∧
      (run.1 = none → ∃ pre, pre <+: keys ∧ SealedUpTo A inner k σ run.2 pre) :=
  exec_of_under (under_sealEach hread keys (sealedUpTo_nil σ)) F hF

/-- **Sealing in place loses nothing.** Whatever reads, writes and draws fail, and if the power is
cut, every name reads as before. Where it returns a count, the listed names that are present are
sealed, the count is that of the distinct ones that were in the clear, no other name's bytes have
changed, and sealing again returns zero and writes nothing. -/
theorem sealing_loses_nothing (A : Aes256Gcm) (hA : A.Opens) (inner : S) (k : Array8 32)
    (σ : KvStores S) (keys : List String) (F : KvFaults) (hF : HonestReads F) :
    let run := Prog.exec (SealedKv.sealInPlace A ⟨inner, some k⟩ keys) F σ
    (∀ name cap G, G.ReadsDone →
      (Prog.exec (SealedKv.get A ⟨inner, some k⟩ name cap) G run.2).1 =
        (Prog.exec (SealedKv.get A ⟨inner, some k⟩ name cap) G σ).1) ∧
    ∀ c, run.1 = some (.ok c) →
      (∀ name ∈ keys, (σ inner name).isSome → IsSealed inner run.2 name) ∧
      c = clearCount inner σ keys ∧
      (∀ s name, s ≠ inner ∨ name ∉ keys → run.2 s name = σ s name) ∧
      ∀ G, G.ReadsDone →
        Prog.exec (SealedKv.sealInPlace A ⟨inner, some k⟩ keys) G run.2 =
            (some (.ok 0), run.2) ∧
          Prog.writes (SealedKv.sealInPlace A ⟨inner, some k⟩ keys) G run.2 = [] := by
  intro run
  obtain ⟨hends, hcut⟩ := exec_sealInPlace A inner k σ keys (fun _ he => he) (within_anything hF)
  refine ⟨fun name cap G hG => ?_, fun c hc => ?_⟩
  · have hdone : ∃ done, SealedUpTo A inner k σ run.2 done := by
      cases hr : run.1 with
      | none =>
        obtain ⟨pre, -, h⟩ := hcut hr
        exact ⟨pre, h⟩
      | some r =>
        cases hends r hr with
        | finished h => exact ⟨_, h⟩
        | stopped pre key rest split h why => exact ⟨_, h⟩
    obtain ⟨done, h⟩ := hdone
    rw [exec_reading hG, exec_reading hG]
    exact congrArg some (h.reading_eq hA name cap)
  · have hend := hends _ hc
    generalize hok : (Except.ok c : Result ℕ) = r at hend
    cases hend with
    | stopped pre key rest split h why => cases hok
    | finished h =>
      rw [List.nil_append] at h hok
      have hagain : ∀ name ∈ keys, isClear inner run.2 name = false := fun name hname =>
        Bool.eq_false_iff.mpr fun hclear => ((h.isClear_iff name).mp hclear).2 hname
      refine ⟨fun name hname hpresent => ?_, Except.ok.inj hok, fun s name hother => ?_,
        fun G hG => exec_again keys hagain 0 G hG⟩
      · exact h.isSealed hname hpresent
      · by_cases hs : s = inner
        · rw [hs]
          exact h.kept name (Or.inl (hother.resolve_left (not_not.mpr hs)))
        · rw [h.others s hs]

/-! ### What is left in the clear -/

/-- Nothing fails, and every draw is answered. -/
def reliable : Hazards UInt8 Error where
  read _ := False
  write _ := False
  cut := False
  draw n := Drawn n

theorem within_reliable {F : KvFaults} (hF : F.Steady) (hdraw : ∀ i n, Drawn n (F.entropy i n)) :
    F.Within reliable where
  read i e he := by simp [hF.reads i] at he
  write i e he := by simp [hF.writes i] at he
  cut i he := by simp [hF.writes i] at he
  draw := hdraw

theorem not_mayFail_reliable : ¬ MayFail reliable := by
  rintro (⟨e, he⟩ | ⟨e, he⟩ | ⟨n, e, v, hv⟩)
  · exact he
  · exact he
  · cases hv

/-- The name holds a value in the clear that is too long to be sealed, or is itself too long. -/
def stops (inner : S) (σ : KvStores S) (name : String) : Bool :=
  (σ inner name).any fun v =>
    !marked v && decide (MAX_VALUE < v.length ∨ Aes256Gcm.LIMIT < byteLen name)

omit [DecidableEq S] in
theorem stops_iff (hA : A.Limited) : stops inner σ key = true ↔ Unsealable A inner k σ key := by
  unfold stops Unsealable
  cases σ inner key with
  | none => simp
  | some v =>
    simp only [Option.any_some, Bool.and_eq_true, Bool.not_eq_true', decide_eq_true_eq,
      Option.some.injEq, exists_eq_left']
    refine and_congr_right fun _ => ?_
    by_cases hlong : MAX_VALUE < v.length
    · simp [hlong]
    · have hlimit : v.length ≤ Aes256Gcm.LIMIT := le_trans (not_lt.mp hlong) (by decide)
      have hnone : ∀ nonce, A.encrypt k nonce (asBytes key) v = none ↔
          Aes256Gcm.LIMIT < byteLen key := by
        intro nonce
        rw [← Option.not_isSome_iff_eq_none, hA, not_and]
        exact ⟨fun h => not_le.mp fun hle => h hle hlimit, fun h hle => absurd hle (not_le.mpr h)⟩
      simp only [hnone, hlong, false_or]
      exact ⟨fun h => ⟨zeroNonce, h⟩, fun ⟨_, h⟩ => h⟩

omit [DecidableEq S] in
theorem SealedUpTo.not_stops (hA : A.Limited) (h : SealedUpTo A inner k σ τ done)
    (hdone : key ∈ done) : stops inner σ key = false := by
  refine Bool.eq_false_iff.mpr fun hstops => ?_
  obtain ⟨v, hv, hmark, hwhy⟩ := (stops_iff hA).mp hstops
  obtain ⟨raw, -, hseals⟩ := h.sealed key hdone v hv hmark
  obtain ⟨hshort, -, nonce, body, tag, henc, -⟩ := marked_of_seals hseals
  rcases hwhy with hlong | ⟨nonce', hnone⟩
  · exact absurd hshort (not_le.mpr hlong)
  · have hsome : (A.encrypt k nonce' (asBytes key) v).isSome :=
      (hA _ _ _ _).mpr ((hA k nonce _ _).mp (by rw [henc]; rfl))
    rw [hnone] at hsome
    cases hsome

omit [DecidableEq S] in
/-- Where nothing fails, the names done are those before the first that stops the loop. -/
theorem Ends.takeWhile (hA : A.Limited) {r : Result ℕ}
    (h : Ends A inner k reliable σ [] keys r τ) :
    SealedUpTo A inner k σ τ (keys.takeWhile fun name => !stops inner σ name) := by
  have hpass : ∀ {names}, SealedUpTo A inner k σ τ names → ∀ name ∈ names,
      (!stops inner σ name) = true := fun h name hname => by rw [h.not_stops hA hname]; rfl
  cases h with
  | finished h =>
    rw [List.nil_append] at h
    rwa [List.takeWhile_eq_self_iff.mpr (hpass h)]
  | stopped pre name rest split h why =>
    rw [List.nil_append] at h
    have hstops : stops inner σ name = true :=
      (stops_iff hA).mpr (why.resolve_right not_mayFail_reliable)
    rwa [split, List.takeWhile_append_of_pos (hpass h),
      List.takeWhile_cons_of_neg (by simp [hstops]), List.append_nil]

/-- The name holds a value in the clear, short enough to be sealed. -/
def ShortClear (inner : S) (σ : KvStores S) (name : String) : Prop :=
  ∃ v, σ inner name = some v ∧ marked v = false ∧ v.length ≤ MAX_VALUE

/-- **What is left in the clear.** Where nothing fails, every listed name that holds a short value
in the clear is sealed if and only if each of them is listed before the first name whose value in
the clear is longer than `MAX_VALUE`, or that is itself longer than the cipher takes. -/
theorem short_values_sealed_iff (A : Aes256Gcm) (hA : A.Limited) (inner : S) (k : Array8 32)
    (σ : KvStores S) (keys : List String) (F : KvFaults) (hF : F.Steady)
    (hdraw : ∀ i n, Drawn n (F.entropy i n)) :
    let run := Prog.exec (SealedKv.sealInPlace A ⟨inner, some k⟩ keys) F σ
    (∀ name ∈ keys, ShortClear inner σ name → IsSealed inner run.2 name) ↔
      ∀ name ∈ keys, ShortClear inner σ name →
        name ∈ keys.takeWhile fun name => !stops inner σ name := by
  intro run
  obtain ⟨hends, -⟩ := exec_sealInPlace A inner k σ keys (H := reliable)
    (fun _ he => False.elim he) (within_reliable hF hdraw)
  have h : SealedUpTo A inner k σ run.2 (keys.takeWhile fun name => !stops inner σ name) := by
    cases hr : run.1 with
    | none => exact absurd hr (exec_ne_none _ F σ fun i hcut => by simp [hF.writes i] at hcut)
    | some r => exact (hends r hr).takeWhile hA
  refine forall_congr' fun name => imp_congr_right fun _ => imp_congr_right fun hshort => ?_
  obtain ⟨v, hv, hmark, -⟩ := hshort
  constructor
  · intro hsealed
    by_contra hnot
    obtain ⟨raw, hraw, hmark'⟩ := isSealed_iff.mp hsealed
    rw [h.kept name (Or.inl hnot), hv] at hraw
    cases hraw
    rw [hmark] at hmark'
    cases hmark'
  · exact fun hdone => h.isSealed hdone (by rw [hv]; rfl)

end Loop

/-! ### A board provisioned in the clear -/

/-- A passphrase, and a value too long to be sealed. -/
def board : KvStores Unit := fun _ name =>
  if name = "wifi.psk" then some passphrase
  else if name = "legacy" then some (List.replicate 300 3)
  else none

theorem cipher_limited : cipher.Limited := by
  intro k nonce aad plain
  unfold cipher
  simp only
  split_ifs with hlisted hlimit
  · obtain ⟨-, -, rfl, rfl⟩ := hlisted
    exact iff_of_true rfl (by decide)
  · exact iff_of_true rfl hlimit
  · exact iff_of_false Bool.false_ne_true hlimit

/-- The passphrase listed twice, and a name that is absent. -/
theorem passphrase_sealed_once :
    let kv : SealedKv Unit := ⟨(), some sealKey⟩
    let run := Prog.exec (kv.sealInPlace cipher ["wifi.psk", "absent", "wifi.psk"]) Faults.calm board
    run.1 = some (.ok 1) ∧ IsSealed () run.2 "wifi.psk" ∧
      (Prog.exec (kv.get cipher "wifi.psk" 64) Faults.calm run.2).1 =
        some (.ok (some passphrase)) ∧
      Prog.exec (kv.sealInPlace cipher ["wifi.psk", "absent", "wifi.psk"]) Faults.calm run.2 =
        (some (.ok 0), run.2) := by
  intro kv run
  have hok : run.1 = some (.ok 1) := rfl
  obtain ⟨hget, hsealed⟩ := sealing_loses_nothing cipher cipher_opens () sealKey board
    ["wifi.psk", "absent", "wifi.psk"] Faults.calm fun i n h => by cases h
  obtain ⟨hlisted, -, -, hagain⟩ := hsealed 1 hok
  exact ⟨hok, hlisted "wifi.psk" (by decide) rfl,
    (hget "wifi.psk" 64 Faults.calm fun _ => rfl).trans rfl, (hagain Faults.calm fun _ => rfl).1⟩

set_option maxRecDepth 4000 in
/-- Listed behind the long value, the passphrase stays in the clear. -/
theorem passphrase_left_in_the_clear :
    let run := Prog.exec
      (SealedKv.sealInPlace cipher ⟨(), some sealKey⟩ ["legacy", "wifi.psk"]) Faults.calm board
    run.1 = some (.error (.bufferTooSmall 300)) ∧ ShortClear () board "wifi.psk" ∧
      ¬ IsSealed () run.2 "wifi.psk" := by
  intro run
  refine ⟨rfl, ⟨passphrase, rfl, by decide, by decide⟩, ?_⟩
  rw [isSealed_iff]
  rintro ⟨raw, hraw, hmark⟩
  have hleft : run.2 () "wifi.psk" = some passphrase := rfl
  rw [hleft] at hraw
  cases hraw
  exact absurd hmark (by decide)

set_option maxRecDepth 4000 in
/-- Listed before it, it is sealed. -/
theorem passphrase_sealed_before_legacy :
    IsSealed () (Prog.exec (SealedKv.sealInPlace cipher ⟨(), some sealKey⟩ ["wifi.psk", "legacy"])
      Faults.calm board).2 "wifi.psk" := by
  refine (short_values_sealed_iff cipher cipher_limited () sealKey board ["wifi.psk", "legacy"]
    Faults.calm ⟨fun _ => rfl, fun _ => rfl⟩ fun _ _ => ⟨_, rfl⟩).mpr ?_ "wifi.psk" (by decide)
      ⟨passphrase, rfl, by decide, by decide⟩
  intro name hname hshort
  have hwhile : (["wifi.psk", "legacy"].takeWhile fun name => !stops () board name) =
      ["wifi.psk"] := by decide
  rw [hwhile]
  rcases List.mem_pair.mp hname with rfl | rfl
  · exact List.mem_singleton.mpr rfl
  · obtain ⟨v, hv, -, hlen⟩ := hshort
    cases hv
    exact absurd hlen (by decide)

end EspMid.Keeping.SealInPlace
