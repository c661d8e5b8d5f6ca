import Mathlib.Data.Vector.Basic

/-! # Programs over key-value stores that may fail or lose power

A program reads, writes and removes values in named stores and draws random bytes; each operation
may answer with an error, and the program goes on with the answer. `exec` runs a program under
`Faults`: which reads fail, what becomes of each write (done, failed, or never made because the
power is cut there), and what the entropy source says. A failed write leaves the store as it was; a
cut ends the run with no result, the store holding whatever the earlier writes left.

* `Prog` is the syntax, a monad; `Proc` is a program with an error result, a monad whose bind stops
  at the first error;
* `writes` lists the writes a run makes; the store after a run is those writes applied in order
  (`exec_stores`);
* `FailStop` programs give up at the first write that fails: interrupted anywhere, they have made a
  prefix of the writes they make uninterrupted (`exec_failStop`). -/

namespace EspMid.Lib.StoreProg

/-- What the stores hold: per store and key, a value or nothing. -/
abbrev Stores (S K β : Type) := S → K → Option (List β)

/-- The error of a read whose buffer is shorter than the value, which names the value's length. -/
class StoreError (ε : Type) where
  bufferTooSmall (needed : ℕ) : ε

/-- A program over stores named in `S` with keys `K` and values over `β`. -/
inductive Prog (S K β ε α : Type) : Type where
  | ret (a : α)
  | get (s : S) (k : K) (cap : ℕ) (next : Except ε (Option (List β)) → Prog S K β ε α)
  | put (s : S) (k : K) (v : List β) (next : Except ε Unit → Prog S K β ε α)
  | remove (s : S) (k : K) (next : Except ε Bool → Prog S K β ε α)
  | draw (n : ℕ) (next : Except ε (List.Vector β n) → Prog S K β ε α)

/-- What becomes of a write. -/
inductive Fate (ε : Type) where
  | done
  | failed (e : ε)
  | cut

/-- What goes wrong in a run: the `i`-th read, the `i`-th write, the `i`-th draw. -/
structure Faults (β ε : Type) where
  read : ℕ → Option ε
  write : ℕ → Fate ε
  entropy : (i n : ℕ) → Except ε (List.Vector β n)

variable {S K β ε α γ : Type}

/-! ### Stores -/

section Stores
variable [DecidableEq S] [DecidableEq K]

/-- The stores with the value of one key replaced. -/
def Stores.set (σ : Stores S K β) (s : S) (k : K) (v : Option (List β)) : Stores S K β :=
  fun s' k' => if s' = s ∧ k' = k then v else σ s' k'

@[simp] theorem Stores.set_self (σ : Stores S K β) (s : S) (k : K) (v : Option (List β)) :
    σ.set s k v s k = v := by simp [Stores.set]

theorem Stores.set_apply (σ : Stores S K β) (s s' : S) (k k' : K) (v : Option (List β)) :
    σ.set s k v s' k' = if s' = s ∧ k' = k then v else σ s' k' := rfl

theorem Stores.set_of_key_ne {σ : Stores S K β} {s s' : S} {k k' : K} {v : Option (List β)}
    (h : k' ≠ k) : σ.set s k v s' k' = σ s' k' := by simp [Stores.set, h]

theorem Stores.set_of_store_ne {σ : Stores S K β} {s s' : S} {k k' : K} {v : Option (List β)}
    (h : s' ≠ s) : σ.set s k v s' k' = σ s' k' := by simp [Stores.set, h]

end Stores

/-- What a read into a buffer of `cap` items answers. -/
def Stores.read [StoreError ε] (σ : Stores S K β) (s : S) (k : K) (cap : ℕ) :
    Except ε (Option (List β)) :=
  match σ s k with
  | none => .ok none
  | some v => if v.length ≤ cap then .ok (some v) else .error (StoreError.bufferTooSmall v.length)

theorem Stores.read_eq_ok [StoreError ε] {σ : Stores S K β} {s : S} {k : K} {cap : ℕ}
    {o : Option (List β)} :
    (σ.read s k cap : Except ε _) = .ok o ↔ σ s k = o ∧ ∀ v, o = some v → v.length ≤ cap := by
  unfold Stores.read
  cases σ s k with
  | none =>
    simp only [Except.ok.injEq]
    exact ⟨fun h => ⟨h, fun v hv => by rw [hv] at h; cases h⟩, fun h => h.1⟩
  | some v' =>
    simp only
    split_ifs with hle
    · simp only [Except.ok.injEq]
      exact ⟨fun h => ⟨h, fun v hv => by rw [hv] at h; cases h; exact hle⟩, fun h => h.1⟩
    · simp only [false_iff, not_and]
      rintro rfl h
      exact hle (h v' rfl)

theorem Stores.read_eq_error [StoreError ε] {σ : Stores S K β} {s : S} {k : K} {cap : ℕ} {e : ε} :
    σ.read s k cap = .error e ↔
      ∃ v, σ s k = some v ∧ cap < v.length ∧ e = StoreError.bufferTooSmall v.length := by
  unfold Stores.read
  cases σ s k with
  | none => simp
  | some v =>
    simp only
    split_ifs with hle
    · simp [Nat.not_lt.mpr hle]
    · simp only [Except.error.injEq, Option.some.injEq, exists_eq_left']
      exact ⟨fun h => ⟨not_le.mp hle, h.symm⟩, fun h => h.2.symm⟩

theorem Stores.read_eq_none [StoreError ε] {σ : Stores S K β} {s : S} {k : K} {cap : ℕ} :
    (σ.read s k cap : Except ε _) = .ok none ↔ σ s k = none := by
  simp [Stores.read_eq_ok]

theorem Stores.read_eq_some [StoreError ε] {σ : Stores S K β} {s : S} {k : K} {cap : ℕ}
    {v : List β} :
    (σ.read s k cap : Except ε _) = .ok (some v) ↔ σ s k = some v ∧ v.length ≤ cap := by
  simp [Stores.read_eq_ok]

/-! ### Programs as monads -/

/-- Run `f` on the result of `p`. -/
def Prog.bind : Prog S K β ε α → (α → Prog S K β ε γ) → Prog S K β ε γ
  | .ret a, f => f a
  | .get s k cap next, f => .get s k cap fun r => (next r).bind f
  | .put s k v next, f => .put s k v fun r => (next r).bind f
  | .remove s k next, f => .remove s k fun r => (next r).bind f
  | .draw n next, f => .draw n fun r => (next r).bind f

instance : Monad (Prog S K β ε) where
  pure := .ret
  bind := .bind

theorem Prog.bind_assoc {δ : Type} (p : Prog S K β ε α) (f : α → Prog S K β ε γ)
    (g : γ → Prog S K β ε δ) : (p.bind f).bind g = p.bind fun a => (f a).bind g := by
  induction p with
  | ret a => rfl
  | get s k cap next ih => exact congrArg (Prog.get s k cap) (funext ih)
  | put s k v next ih => exact congrArg (Prog.put s k v) (funext ih)
  | remove s k next ih => exact congrArg (Prog.remove s k) (funext ih)
  | draw n next ih => exact congrArg (Prog.draw n) (funext ih)

/-- A program that may end in an error. -/
def Proc (S K β ε α : Type) := Prog S K β ε (Except ε α)

namespace Proc

/-- End in an error. -/
def fail (e : ε) : Proc S K β ε α := Prog.ret (.error e)

/-- A result computed without the stores. -/
def ofExcept (r : Except ε α) : Proc S K β ε α := Prog.ret r

/-- A program that cannot end in an error. -/
def lift (p : Prog S K β ε α) : Proc S K β ε α := p.bind fun a => .ret (.ok a)

/-- A program's result or error, as a value. -/
def attempt (p : Proc S K β ε α) : Proc S K β ε (Except ε α) := Proc.lift p

/-- Run `f` on the result of `p`, or stop with its error. -/
def bind (p : Proc S K β ε α) (f : α → Proc S K β ε γ) : Proc S K β ε γ :=
  Prog.bind p fun
    | .ok a => f a
    | .error e => .ret (.error e)

instance : Monad (Proc S K β ε) where
  pure a := Prog.ret (.ok a)
  bind := Proc.bind

/-- Read the value of `k`, if it fits in `cap` items. -/
def get (s : S) (k : K) (cap : ℕ) : Proc S K β ε (Option (List β)) := Prog.get s k cap .ret

/-- Store a value under `k`. -/
def put (s : S) (k : K) (v : List β) : Proc S K β ε Unit := Prog.put s k v .ret

/-- Remove `k`; whether it was there. -/
def remove (s : S) (k : K) : Proc S K β ε Bool := Prog.remove s k .ret

/-- Draw `n` random items. -/
def draw (n : ℕ) : Proc S K β ε (List.Vector β n) := Prog.draw n .ret

end Proc

/-! ### Faults -/

namespace Faults

/-- The faults after one read. -/
def tickRead (F : Faults β ε) : Faults β ε := { F with read := fun i => F.read (i + 1) }

/-- The faults after one write. -/
def tickWrite (F : Faults β ε) : Faults β ε := { F with write := fun i => F.write (i + 1) }

/-- The faults after one draw. -/
def tickDraw (F : Faults β ε) : Faults β ε := { F with entropy := fun i => F.entropy (i + 1) }

/-- A read with the answer `e`, and then the faults `F`. -/
def consRead (e : Option ε) (F : Faults β ε) : Faults β ε :=
  { F with read := fun
      | 0 => e
      | i + 1 => F.read i }

/-- A write with the fate `w`, and then the faults `F`. -/
def consWrite (w : Fate ε) (F : Faults β ε) : Faults β ε :=
  { F with write := fun
      | 0 => w
      | i + 1 => F.write i }

/-- The same faults with every write done. -/
def writesDone (F : Faults β ε) : Faults β ε := { F with write := fun _ => .done }

/-- Nothing goes wrong, and the entropy source gives a constant. -/
def calm [Inhabited β] : Faults β ε where
  read _ := none
  write _ := .done
  entropy _ n := .ok (List.Vector.replicate n default)

/-- The power is cut before the write after the first `n`. -/
def cutAfter [Inhabited β] (n : ℕ) : Faults β ε :=
  { calm with write := fun i => if i < n then .done else .cut }

/-- No read fails. -/
def ReadsDone (F : Faults β ε) : Prop := ∀ i, F.read i = none

/-- Nothing fails: every read and write is done, up to a cut. -/
def OnlyCut (F : Faults β ε) : Prop := F.ReadsDone ∧ ∀ i, F.write i = .done ∨ F.write i = .cut

/-- The power is not cut. -/
def NoCut (F : Faults β ε) : Prop := ∀ i, F.write i ≠ .cut

theorem NoCut.consWrite {F : Faults β ε} (h : F.NoCut) {w : Fate ε} (hw : w ≠ .cut) :
    (F.consWrite w).NoCut
  | 0 => hw
  | i + 1 => h i

theorem consRead_calm [Inhabited β] : consRead none (calm : Faults β ε) = calm :=
  congrArg (fun r => { (calm : Faults β ε) with read := r }) (funext fun i => by cases i <;> rfl)

theorem consWrite_calm [Inhabited β] : consWrite .done (calm : Faults β ε) = calm :=
  congrArg (fun w => { (calm : Faults β ε) with write := w }) (funext fun i => by cases i <;> rfl)

/-- How many of the first `m` writes are done before one is not. -/
def lead (w : ℕ → Fate ε) : ℕ → ℕ
  | 0 => 0
  | m + 1 =>
    match w 0 with
    | .done => lead (fun i => w (i + 1)) m + 1
    | _ => 0

end Faults

/-! ### Programs that stop at a failed write -/

/-- Every write that fails ends the program with that error. -/
def FailStop : Prog S K β ε (Except ε α) → Prop
  | .ret _ => True
  | .get _ _ _ next => ∀ r, FailStop (next r)
  | .put _ _ _ next => (∀ e, next (.error e) = .ret (.error e)) ∧ FailStop (next (.ok ()))
  | .remove _ _ next =>
    (∀ e, next (.error e) = .ret (.error e)) ∧ ∀ b, FailStop (next (.ok b))
  | .draw _ next => ∀ r, FailStop (next r)

theorem FailStop.bind {p : Proc S K β ε α} {f : α → Proc S K β ε γ} (hp : FailStop p)
    (hf : ∀ a, FailStop (f a)) : FailStop (p.bind f) := by
  unfold Proc at p f
  unfold Proc.bind
  induction p with
  | ret r =>
    cases r with
    | ok a => exact hf a
    | error e => exact True.intro
  | get s k cap next ih => exact fun r => ih r (hp r)
  | put s k v next ih => exact ⟨fun e => by simp only [hp.1 e]; rfl, ih _ hp.2⟩
  | remove s k next ih => exact ⟨fun e => by simp only [hp.1 e]; rfl, fun b => ih _ (hp.2 b)⟩
  | draw n next ih => exact fun r => ih r (hp r)

theorem Faults.lead_le (w : ℕ → Fate ε) (m : ℕ) : Faults.lead w m ≤ m := by
  induction m generalizing w with
  | zero => exact le_rfl
  | succ m ih =>
    unfold Faults.lead
    split
    · have := ih fun i => w (i + 1); omega
    · omega

/-! ### Execution -/

section Exec
variable [DecidableEq S] [DecidableEq K] [StoreError ε]

/-- Run a program under faults: its result, unless the power was cut, and the stores it leaves. -/
def Prog.exec : Prog S K β ε α → Faults β ε → Stores S K β → Option α × Stores S K β
  | .ret a, _, σ => (some a, σ)
  | .get s k cap next, F, σ =>
    (next (match F.read 0 with
      | some e => .error e
      | none => σ.read s k cap)).exec F.tickRead σ
  | .put s k v next, F, σ =>
    match F.write 0 with
    | .cut => (none, σ)
    | .failed e => (next (.error e)).exec F.tickWrite σ
    | .done => (next (.ok ())).exec F.tickWrite (σ.set s k (some v))
  | .remove s k next, F, σ =>
    match F.write 0 with
    | .cut => (none, σ)
    | .failed e => (next (.error e)).exec F.tickWrite σ
    | .done => (next (.ok (σ s k).isSome)).exec F.tickWrite (σ.set s k none)
  | .draw n next, F, σ => (next (F.entropy 0 n)).exec F.tickDraw σ

/-- A program that computes with the result of another. -/
theorem exec_map (p : Prog S K β ε α) (f : α → γ) :
    ∀ (F : Faults β ε) (σ : Stores S K β),
      (p.bind fun a => .ret (f a)).exec F σ = ((p.exec F σ).1.map f, (p.exec F σ).2) := by
  induction p with
  | ret a => intro F σ; rfl
  | get s k cap next ih => intro F σ; exact ih _ F.tickRead σ
  | put s k v next ih =>
    intro F σ
    simp only [Prog.bind, Prog.exec]
    cases F.write 0 with
    | done => exact ih _ _ _
    | failed e => exact ih _ _ _
    | cut => rfl
  | remove s k next ih =>
    intro F σ
    simp only [Prog.bind, Prog.exec]
    cases F.write 0 with
    | done => exact ih _ _ _
    | failed e => exact ih _ _ _
    | cut => rfl
  | draw n next ih => intro F σ; exact ih _ F.tickDraw σ

/-- One write to a store. -/
inductive Write (S K β : Type) where
  | put (s : S) (k : K) (v : List β)
  | remove (s : S) (k : K)

/-- The stores after a write. -/
def Write.apply : Write S K β → Stores S K β → Stores S K β
  | .put s k v, σ => σ.set s k (some v)
  | .remove s k, σ => σ.set s k none

/-- The stores after several writes, in order. -/
def applyAll (ws : List (Write S K β)) (σ : Stores S K β) : Stores S K β :=
  ws.foldl (fun σ w => w.apply σ) σ

/-- The writes a run makes, in order. -/
def Prog.writes : Prog S K β ε α → Faults β ε → Stores S K β → List (Write S K β)
  | .ret _, _, _ => []
  | .get s k cap next, F, σ =>
    (next (match F.read 0 with
      | some e => .error e
      | none => σ.read s k cap)).writes F.tickRead σ
  | .put s k v next, F, σ =>
    match F.write 0 with
    | .cut => []
    | .failed e => (next (.error e)).writes F.tickWrite σ
    | .done => .put s k v :: (next (.ok ())).writes F.tickWrite (σ.set s k (some v))
  | .remove s k next, F, σ =>
    match F.write 0 with
    | .cut => []
    | .failed e => (next (.error e)).writes F.tickWrite σ
    | .done => .remove s k :: (next (.ok (σ s k).isSome)).writes F.tickWrite (σ.set s k none)
  | .draw n next, F, σ => (next (F.entropy 0 n)).writes F.tickDraw σ

@[simp] theorem applyAll_nil (σ : Stores S K β) : applyAll [] σ = σ := rfl

@[simp] theorem applyAll_cons (w : Write S K β) (ws : List (Write S K β)) (σ : Stores S K β) :
    applyAll (w :: ws) σ = applyAll ws (w.apply σ) := rfl

/-- **The store after a run** is the writes of the run, applied in order. -/
theorem exec_stores (p : Prog S K β ε α) :
    ∀ (F : Faults β ε) (σ : Stores S K β), (p.exec F σ).2 = applyAll (p.writes F σ) σ := by
  induction p with
  | ret a => intro F σ; rfl
  | get s k cap next ih => intro F σ; exact ih _ _ _
  | put s k v next ih =>
    intro F σ
    simp only [Prog.exec, Prog.writes]
    cases F.write 0 with
    | done => exact ih _ _ _
    | failed e => exact ih _ _ _
    | cut => rfl
  | remove s k next ih =>
    intro F σ
    simp only [Prog.exec, Prog.writes]
    cases F.write 0 with
    | done => exact ih _ _ _
    | failed e => exact ih _ _ _
    | cut => rfl
  | draw n next ih => intro F σ; exact ih _ _ _

/-! ### Interrupted runs -/

/-- **An interrupted fail-stop run is a prefix.** It makes the writes the run makes with every write
done, up to the first that is not done; if all are done it ends the same way. -/
theorem exec_failStop {p : Prog S K β ε (Except ε α)} (hp : FailStop p) :
    ∀ (F : Faults β ε) (σ : Stores S K β),
      p.writes F σ = (p.writes F.writesDone σ).take
        (Faults.lead F.write (p.writes F.writesDone σ).length) ∧
      (Faults.lead F.write (p.writes F.writesDone σ).length = (p.writes F.writesDone σ).length →
        p.exec F σ = p.exec F.writesDone σ) := by
  induction p with
  | ret a => intro F σ; exact ⟨rfl, fun _ => rfl⟩
  | get s k cap next ih => intro F σ; exact ih _ (hp _) F.tickRead σ
  | put s k v next ih =>
    intro F σ
    obtain ⟨herr, hok⟩ := hp
    have hd : F.writesDone.write 0 = .done := rfl
    simp only [Prog.writes, Prog.exec, hd]
    cases hw : F.write 0 with
    | done =>
      obtain ⟨h1, h2⟩ := ih _ hok F.tickWrite (σ.set s k (some v))
      simp only [List.length_cons, Faults.lead, hw, List.take_succ_cons]
      refine ⟨congrArg _ h1, fun h => h2 ?_⟩
      exact Nat.succ_injective h
    | failed e => simp [Faults.lead, hw, herr, Prog.writes]
    | cut => simp [Faults.lead, hw]
  | remove s k next ih =>
    intro F σ
    obtain ⟨herr, hok⟩ := hp
    have hd : F.writesDone.write 0 = .done := rfl
    simp only [Prog.writes, Prog.exec, hd]
    cases hw : F.write 0 with
    | done =>
      obtain ⟨h1, h2⟩ := ih _ (hok _) F.tickWrite (σ.set s k none)
      simp only [List.length_cons, Faults.lead, hw, List.take_succ_cons]
      refine ⟨congrArg _ h1, fun h => h2 ?_⟩
      exact Nat.succ_injective h
    | failed e => simp [Faults.lead, hw, herr, Prog.writes]
    | cut => simp [Faults.lead, hw]
  | draw n next ih => intro F σ; exact ih _ (hp _) F.tickDraw σ

end Exec

end EspMid.Lib.StoreProg
