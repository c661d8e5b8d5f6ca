import EspMid.Lib.BigEndian

/-! # Writers and the readers that invert them

A reader takes a byte string and returns a value with the bytes it left, or an error. It *inverts*
a writer if it reads back every value the writer may write, whatever bytes follow, and accepts
nothing else. An inverted writer is *self-delimiting*: two written values with anything behind them
are equal only if the values and what follows are. Both notions pass to a list of values written
one after the other (`readMany`, `Inverts.many`), and the length-prefixed strings `framed` are the
basic self-delimiting writer. -/

namespace EspMid.Lib.Framing

open EspMid.Lib

variable {α β ε : Type}

/-! ### Sequencing -/

@[simp] theorem ok_bind (a : α) (f : α → Except ε β) : (Except.ok a >>= f) = f a := rfl

@[simp] theorem error_bind (e : ε) (f : α → Except ε β) :
    ((Except.error e : Except ε α) >>= f) = .error e := rfl

theorem bind_eq_ok {x : Except ε α} {f : α → Except ε β} {b : β} :
    (x >>= f) = .ok b ↔ ∃ a, x = .ok a ∧ f a = .ok b := by
  cases x with
  | error e => simp
  | ok a => simp

/-! ### Self-delimiting writers and their readers -/

/-- `write` is self-delimiting on the values `ok`. -/
def Delimits (ok : α → Prop) (write : α → List β) : Prop :=
  ∀ ⦃a a' : α⦄ ⦃r r' : List β⦄, ok a → ok a' → write a ++ r = write a' ++ r' → a = a' ∧ r = r'

/-- `read` inverts `write` on the values `ok`: it reads what was written, and only that. -/
structure Inverts (read : List β → Except ε (α × List β)) (write : α → List β)
    (ok : α → Prop) : Prop where
  reads : ∀ a r, ok a → read (write a ++ r) = .ok (a, r)
  wrote : ∀ b a r, read b = .ok (a, r) → ok a ∧ b = write a ++ r

theorem Delimits.injOn {ok : α → Prop} {write : α → List β} (h : Delimits ok write) {a a' : α}
    (ha : ok a) (ha' : ok a') (heq : write a = write a') : a = a' := by
  have hnil : write a ++ [] = write a' ++ [] := by rw [heq]
  exact (h ha ha' hnil).1

theorem Inverts.delimits {read : List β → Except ε (α × List β)} {write : α → List β}
    {ok : α → Prop} (h : Inverts read write ok) : Delimits ok write := by
  intro a a' r r' ha ha' heq
  have h1 := h.reads a r ha
  rw [heq, h.reads a' r' ha'] at h1
  cases h1
  exact ⟨rfl, rfl⟩

theorem Inverts.read_iff {read : List β → Except ε (α × List β)} {write : α → List β}
    {ok : α → Prop} (h : Inverts read write ok) {b : List β} {a : α} {r : List β} :
    read b = .ok (a, r) ↔ ok a ∧ b = write a ++ r :=
  ⟨h.wrote b a r, fun ⟨ha, hb⟩ => by rw [hb]; exact h.reads a r ha⟩

/-! ### Fixed widths -/

theorem delimits_of_length {ok : α → Prop} {write : α → List β} {n : ℕ}
    (hl : ∀ a, ok a → (write a).length = n)
    (hinj : ∀ a a', ok a → ok a' → write a = write a' → a = a') : Delimits ok write := by
  intro a a' r r' ha ha' heq
  obtain ⟨hw, hr⟩ := List.append_inj heq (by rw [hl a ha, hl a' ha'])
  exact ⟨hinj a a' ha ha' hw, hr⟩

/-! ### Several values in a row -/

/-- Read `n` values, one after the other. -/
def readMany (read : List β → Except ε (α × List β)) :
    ℕ → List β → Except ε (List α × List β)
  | 0, b => .ok ([], b)
  | n + 1, b => do
    let (a, r) ← read b
    let (as, r') ← readMany read n r
    return (a :: as, r')

/-- **Reading `n` values inverts writing a list of `n` values.** -/
theorem Inverts.many {read : List β → Except ε (α × List β)} {write : α → List β}
    {ok : α → Prop} (h : Inverts read write ok) (n : ℕ) :
    Inverts (readMany read n) (fun as : List α => as.flatMap write)
      (fun as => as.length = n ∧ ∀ a ∈ as, ok a) := by
  constructor
  · intro as
    induction as generalizing n with
    | nil =>
      rintro r ⟨rfl, -⟩
      rfl
    | cons a as ih =>
      rintro r ⟨rfl, hok⟩
      have ha := h.reads a (as.flatMap write ++ r) (hok a (by simp))
      have has := ih as.length r ⟨rfl, fun x hx => hok x (by simp [hx])⟩
      simp only [List.length_cons, List.flatMap_cons, List.append_assoc, readMany, ha, ok_bind, has]
      rfl
  · intro b
    induction n generalizing b with
    | zero =>
      intro as r hr
      cases hr
      simp
    | succ n ih =>
      intro as r hr
      simp only [readMany, bind_eq_ok, Prod.exists] at hr
      obtain ⟨a, r1, h1, as', r2, h2, hr⟩ := hr
      cases hr
      obtain ⟨ha, hb⟩ := h.wrote b a r1 h1
      obtain ⟨⟨hlen, hok⟩, hr1⟩ := ih r1 as' r h2
      refine ⟨⟨by simp [hlen], ?_⟩, by simp [hb, hr1]⟩
      intro x hx
      rcases List.mem_cons.mp hx with rfl | hx
      · exact ha
      · exact hok x hx

/-! ### Length-prefixed strings -/

/-- A byte string behind its length in `w` big-endian bytes. -/
def framed (w : ℕ) (b : List UInt8) : List UInt8 := BigEndian.ofNat w b.length ++ b

@[simp] theorem length_framed (w : ℕ) (b : List UInt8) : (framed w b).length = w + b.length := by
  simp [framed]

/-- **Length-prefixed strings are self-delimiting** as long as the prefix can hold the length. -/
theorem delimits_framed (w : ℕ) :
    Delimits (fun b : List UInt8 => b.length < 256 ^ w) (framed w) := by
  intro b b' r r' hb hb' heq
  simp only [framed, List.append_assoc] at heq
  obtain ⟨hlen, hrest⟩ := List.append_inj heq (by simp)
  exact List.append_inj hrest (BigEndian.ofNat_inj hb hb' hlen)

/-! ### Lengths that wrap -/

/-- The string `a'` is `a`, the prefix of `b` and a part of `b`; what is left of `b` is `b'` framed.
The length prefixes of `a` and `a'` agree, since they wrap. -/
def Wraps (w : ℕ) (a b a' b' : List UInt8) : Prop :=
  ∃ x, a' = a ++ BigEndian.ofNat w b.length ++ x ∧ b = x ++ framed w b' ∧ 256 ^ w ∣ w + x.length

theorem Wraps.framed_eq {w : ℕ} {a b a' b' : List UInt8} (h : Wraps w a b a' b') :
    framed w a ++ framed w b = framed w a' ++ framed w b' := by
  obtain ⟨x, ha, hb, hdvd⟩ := h
  have hlen : BigEndian.ofNat w a.length = BigEndian.ofNat w a'.length := by
    obtain ⟨c, hc⟩ := hdvd
    rw [BigEndian.ofNat_eq_iff, ha, List.length_append, List.length_append,
      BigEndian.length_ofNat, Nat.add_assoc, hc, Nat.add_mul_mod_self_left]
  have hrest : a ++ (BigEndian.ofNat w b.length ++ b) = a' ++ framed w b' := by
    calc a ++ (BigEndian.ofNat w b.length ++ b)
        = a ++ (BigEndian.ofNat w b.length ++ (x ++ framed w b')) :=
          congrArg (fun l => a ++ (BigEndian.ofNat w b.length ++ l)) hb
      _ = a' ++ framed w b' := by rw [ha]; simp only [List.append_assoc]
  calc framed w a ++ framed w b
      = BigEndian.ofNat w a.length ++ (a ++ (BigEndian.ofNat w b.length ++ b)) := by
        simp only [framed, List.append_assoc]
    _ = framed w a' ++ framed w b' := by
        rw [hrest, hlen, ← List.append_assoc]
        rfl

/-- Only strings that outgrow the prefix wrap. -/
theorem Wraps.length_le {w : ℕ} {a b a' b' : List UInt8} (hw : 0 < w) (h : Wraps w a b a' b') :
    a.length + 256 ^ w ≤ a'.length ∧ b'.length + 256 ^ w ≤ b.length := by
  obtain ⟨x, ha, hb, hdvd⟩ := h
  have hle := Nat.le_of_dvd (Nat.add_pos_left hw _) hdvd
  have hla := congrArg List.length ha
  have hlb := congrArg List.length hb
  simp only [List.length_append, BigEndian.length_ofNat, length_framed] at hla hlb
  omega

theorem wraps_of_framed_eq {w : ℕ} {a b a' b' : List UInt8}
    (h : framed w a ++ framed w b = framed w a' ++ framed w b') (hle : a.length ≤ a'.length) :
    (a = a' ∧ b = b') ∨ Wraps w a b a' b' := by
  simp only [framed, List.append_assoc] at h
  obtain ⟨hlen, hrest⟩ := List.append_inj h (by simp)
  have hmod := BigEndian.ofNat_eq_iff.mp hlen
  -- the shorter string begins the longer one, and `y` is what the longer one has beyond it
  have hpre : a <+: a' := List.prefix_of_prefix_length_le (List.prefix_append _ _)
    (hrest ▸ List.prefix_append a' _) hle
  obtain ⟨y, rfl⟩ := hpre
  rw [List.append_assoc, List.append_cancel_left_eq] at hrest
  by_cases hy : y = []
  · subst hy
    rw [List.nil_append] at hrest
    obtain ⟨-, hb⟩ := List.append_inj hrest (by simp)
    exact Or.inl ⟨(List.append_nil a).symm, hb⟩
  · have hdvd : 256 ^ w ∣ y.length := by
      have hzero := Nat.sub_mod_eq_zero_of_mod_eq hmod.symm
      rw [List.length_append, Nat.add_sub_cancel_left] at hzero
      exact Nat.dvd_of_mod_eq_zero hzero
    have hlong : w ≤ y.length :=
      (Nat.lt_pow_self (by decide)).le.trans (Nat.le_of_dvd (List.length_pos_iff.mpr hy) hdvd)
    -- so `y` begins with the prefix of `b`
    obtain ⟨x, rfl⟩ : BigEndian.ofNat w b.length <+: y :=
      List.prefix_of_prefix_length_le (hrest ▸ List.prefix_append _ b) (List.prefix_append y _)
        (by simpa using hlong)
    rw [List.append_assoc, List.append_cancel_left_eq] at hrest
    rw [List.length_append, BigEndian.length_ofNat] at hdvd
    exact Or.inr ⟨x, (List.append_assoc _ _ _).symm, hrest, hdvd⟩

/-- **Two framed strings** are two others framed only where they are the same, or a length wraps. -/
theorem framed_pair_eq_iff {w : ℕ} {a b a' b' : List UInt8} :
    framed w a ++ framed w b = framed w a' ++ framed w b' ↔
      (a = a' ∧ b = b') ∨ Wraps w a b a' b' ∨ Wraps w a' b' a b := by
  constructor
  · intro h
    rcases le_total a.length a'.length with hle | hle
    · rcases wraps_of_framed_eq h hle with hsame | hwraps
      · exact Or.inl hsame
      · exact Or.inr (Or.inl hwraps)
    · rcases wraps_of_framed_eq h.symm hle with ⟨ha, hb⟩ | hwraps
      · exact Or.inl ⟨ha.symm, hb.symm⟩
      · exact Or.inr (Or.inr hwraps)
  · rintro (⟨rfl, rfl⟩ | hwraps | hwraps)
    · rfl
    · exact hwraps.framed_eq
    · exact hwraps.framed_eq.symm

end EspMid.Lib.Framing
