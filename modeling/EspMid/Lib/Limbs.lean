import Mathlib.Algebra.Order.Ring.Int
import Mathlib.Tactic.Linarith
import Mathlib.Tactic.LinearCombination
import Mathlib.Tactic.Ring

/-! # Limbs and carries

A number held in limbs, the low limb first, and the loop that goes up the limbs with a carry. The
limbs may be of any type that is read into a ring (`value`); a loop is given by its step (`carry`).
One fact serves every such loop, whether it adds, subtracts, multiplies by a word or divides
exactly: where each step keeps `digit + B * carry out = item + carry in`, the loop keeps the number
(`value_carry`). -/

namespace EspMid.Lib.Limbs

variable {α β γ : Type*}

/-! ### The number of the limbs -/

section Value

variable {R : Type*} [CommSemiring R] (B : R) (read : α → R)

/-- The number that limbs stand for in base `B`, the low limb first. -/
def value : List α → R
  | [] => 0
  | x :: xs => read x + B * value xs

@[simp] theorem value_nil : value B read [] = 0 := rfl

@[simp] theorem value_cons (x : α) (xs : List α) :
    value B read (x :: xs) = read x + B * value B read xs := rfl

theorem value_append (xs ys : List α) :
    value B read (xs ++ ys) = value B read xs + B ^ xs.length * value B read ys := by
  induction xs with
  | nil => simp
  | cons x xs ih =>
    rw [List.cons_append, value_cons, value_cons, ih, List.length_cons]
    ring

theorem value_take_add_drop (xs : List α) {i : ℕ} (hi : i ≤ xs.length) :
    value B read (xs.take i) + B ^ i * value B read (xs.drop i) = value B read xs := by
  have h := value_append B read (xs.take i) (xs.drop i)
  rwa [List.take_append_drop, List.length_take_of_le hi, eq_comm] at h

theorem value_map (f : β → α) (xs : List β) :
    value B read (xs.map f) = value B (fun x => read (f x)) xs := by
  induction xs with
  | nil => rfl
  | cons x xs ih => rw [List.map_cons, value_cons, value_cons, ih]

theorem value_congr {f g : α → R} {xs : List α} (h : ∀ x ∈ xs, f x = g x) :
    value B f xs = value B g xs := by
  induction xs with
  | nil => rfl
  | cons x xs ih =>
    rw [value_cons, value_cons, h x List.mem_cons_self,
      ih fun y hy => h y (List.mem_cons_of_mem x hy)]

theorem value_replicate_zero {x : α} (hx : read x = 0) (k : ℕ) :
    value B read (List.replicate k x) = 0 := by
  induction k with
  | zero => rfl
  | succ k ih => rw [List.replicate_succ, value_cons, hx, ih, mul_zero, add_zero]

theorem value_zip_add (f : α → R) (g : β → R) {xs : List α} {ys : List β}
    (h : xs.length = ys.length) :
    value B (fun z => f z.1 + g z.2) (xs.zip ys) = value B f xs + value B g ys := by
  induction xs generalizing ys with
  | nil =>
    rw [List.eq_nil_of_length_eq_zero h.symm]
    simp
  | cons x xs ih =>
    obtain _ | ⟨y, ys⟩ := ys
    · simp at h
    · rw [List.zip_cons_cons, value_cons, value_cons, value_cons, ih (by simpa using h)]
      ring

theorem value_mul (f : α → R) (k : R) (xs : List α) :
    value B (fun x => f x * k) xs = value B f xs * k := by
  induction xs with
  | nil => simp
  | cons x xs ih =>
    rw [value_cons, value_cons, ih]
    ring

theorem map_value {S : Type*} [CommSemiring S] (φ : R →+* S) (xs : List α) :
    φ (value B read xs) = value (φ B) (fun x => φ (read x)) xs := by
  induction xs with
  | nil => simp
  | cons x xs ih => rw [value_cons, value_cons, map_add, map_mul, ih]

end Value

theorem value_lt {B : ℕ} {read : α → ℕ} {xs : List α} (h : ∀ x ∈ xs, read x < B) :
    value B read xs < B ^ xs.length := by
  induction xs with
  | nil => simp
  | cons x xs ih =>
    have hx := h x List.mem_cons_self
    have hxs := ih fun y hy => h y (List.mem_cons_of_mem x hy)
    have hB : B * (value B read xs + 1) ≤ B * B ^ xs.length := Nat.mul_le_mul_left B hxs
    rw [value_cons, List.length_cons, pow_succ, mul_comm (B ^ xs.length)]
    linarith

/-- **The number determines the limbs.** -/
theorem value_inj {B : ℕ} {read : α → ℕ} (hread : Function.Injective read) {xs ys : List α}
    (hxs : ∀ x ∈ xs, read x < B) (hys : ∀ y ∈ ys, read y < B) (hlen : xs.length = ys.length)
    (h : value B read xs = value B read ys) : xs = ys := by
  induction xs generalizing ys with
  | nil => exact (List.eq_nil_of_length_eq_zero hlen.symm).symm
  | cons x xs ih =>
    obtain _ | ⟨y, ys⟩ := ys
    · simp at hlen
    · have hx := hxs x List.mem_cons_self
      have hy := hys y List.mem_cons_self
      rw [value_cons, value_cons] at h
      have hhead : read x = read y := by
        have hmod := congrArg (· % B) h
        simpa [Nat.add_mul_mod_self_left, Nat.mod_eq_of_lt hx, Nat.mod_eq_of_lt hy] using hmod
      have htail : value B read xs = value B read ys := by
        rw [hhead] at h
        exact Nat.eq_of_mul_eq_mul_left (by omega) (Nat.add_left_cancel h)
      rw [hread hhead, ih (fun z hz => hxs z (List.mem_cons_of_mem x hz))
        (fun z hz => hys z (List.mem_cons_of_mem y hz)) (by simpa using hlen) htail]

/-! ### Part of the limbs -/

/-- The `k` limbs from `i` on. -/
def window (t : List α) (i k : ℕ) : List α := (t.drop i).take k

/-- The limbs with `s` written over them from `i` on. -/
def patch (t : List α) (i : ℕ) (s : List α) : List α := t.take i ++ (s ++ t.drop (i + s.length))

theorem length_window {t : List α} {i k : ℕ} (h : i + k ≤ t.length) :
    (window t i k).length = k := by
  rw [window, List.length_take, List.length_drop]
  omega

@[simp] theorem length_patch {t s : List α} {i : ℕ} (h : i + s.length ≤ t.length) :
    (patch t i s).length = t.length := by
  rw [patch, List.length_append, List.length_append, List.length_take, List.length_drop]
  omega

/-- What writing over a window does to the number. -/
theorem value_patch {R : Type*} [CommRing R] (B : R) (read : α → R) {t s : List α} {i : ℕ}
    (h : i + s.length ≤ t.length) :
    value B read (patch t i s) =
      value B read t + B ^ i * (value B read s - value B read (window t i s.length)) := by
  have hlow := value_take_add_drop B read t (i := i) (by omega)
  have hhigh := value_take_add_drop B read (t.drop i) (i := s.length)
    (by rw [List.length_drop]; omega)
  rw [List.drop_drop] at hhigh
  rw [patch, window, value_append, value_append, List.length_take_of_le (by omega)]
  linear_combination hlow + B ^ i * hhigh

theorem drop_patch {t s : List α} {i k : ℕ} (h : i ≤ t.length) (hk : i + s.length ≤ k) :
    (patch t i s).drop k = t.drop k := by
  rw [patch, List.drop_append, List.drop_append, List.drop_eq_nil_of_le (by
    rw [List.length_take]; omega), List.drop_eq_nil_of_le (by
    rw [List.length_take]; omega), List.nil_append, List.nil_append, List.drop_drop,
    List.length_take]
  congr 1
  omega

theorem range_loop {σ : Type*} {f : σ → ℕ → σ} {I : ℕ → σ → Prop} {n : ℕ}
    (hstep : ∀ i < n, ∀ s, I i s → I (i + 1) (f s i)) {s : σ} (hs : I 0 s) :
    I n ((List.range n).foldl f s) := by
  induction n with
  | zero => exact hs
  | succ n ih =>
    rw [List.range_succ, List.foldl_append, List.foldl_cons, List.foldl_nil]
    exact hstep n (Nat.lt_succ_self n) _ (ih fun i hi => hstep i (by omega))

/-! ### The carrying loop -/

/-- The loop up the items: a digit out and a carry on. -/
def carry (step : α → γ → β × γ) : List α → γ → List β × γ
  | [], c => ([], c)
  | x :: xs, c =>
    let r := step x c
    let rs := carry step xs r.2
    (r.1 :: rs.1, rs.2)

variable {step : α → γ → β × γ}

@[simp] theorem carry_nil (c : γ) : carry step [] c = ([], c) := rfl

@[simp] theorem carry_cons (x : α) (xs : List α) (c : γ) :
    carry step (x :: xs) c =
      ((step x c).1 :: (carry step xs (step x c).2).1, (carry step xs (step x c).2).2) := rfl

@[simp] theorem length_carry (xs : List α) (c : γ) : (carry step xs c).1.length = xs.length := by
  induction xs generalizing c with
  | nil => rfl
  | cons x xs ih => rw [carry_cons, List.length_cons, ih, List.length_cons]

/-- Two loops in one. -/
theorem carry_both {β' γ' : Type*} (step : α → γ → β × γ) (step' : α → γ' → β' × γ') (xs : List α)
    (c : γ) (c' : γ') :
    carry (fun x w => (((step x w.1).1, (step' x w.2).1), ((step x w.1).2, (step' x w.2).2))) xs
        (c, c') =
      ((carry step xs c).1.zip (carry step' xs c').1,
        ((carry step xs c).2, (carry step' xs c').2)) := by
  induction xs generalizing c c' with
  | nil => rfl
  | cons x xs ih =>
    rw [carry_cons, ih]
    rfl

/-- A step on `x` keeps the number: digit and carry out stand for item and carry in. -/
def Keeps {R : Type*} [CommSemiring R] (B : R) (item : α → R) (digit : β → R) (carried : γ → R)
    (ok : γ → Prop) (step : α → γ → β × γ) (x : α) : Prop :=
  ∀ c, ok c → digit (step x c).1 + B * carried (step x c).2 = item x + carried c ∧ ok (step x c).2

/-- **A loop whose steps keep the number keeps it.** The digits with the last carry above them are
the items with the first carry below them. -/
theorem value_carry {R : Type*} [CommSemiring R] {B : R} {item : α → R} {digit : β → R}
    {carried : γ → R} {ok : γ → Prop} {xs : List α}
    (hstep : ∀ x ∈ xs, Keeps B item digit carried ok step x) {c : γ} (hc : ok c) :
    value B digit (carry step xs c).1 + B ^ xs.length * carried (carry step xs c).2 =
      value B item xs + carried c ∧ ok (carry step xs c).2 := by
  induction xs generalizing c with
  | nil => exact ⟨by simp, hc⟩
  | cons x xs ih =>
    obtain ⟨hx, hok⟩ := hstep x List.mem_cons_self c hc
    obtain ⟨hxs, hend⟩ := ih (fun y hy => hstep y (List.mem_cons_of_mem x hy)) hok
    refine ⟨?_, hend⟩
    calc value B digit (carry step (x :: xs) c).1 +
          B ^ (x :: xs).length * carried (carry step (x :: xs) c).2
        = digit (step x c).1 + B * (value B digit (carry step xs (step x c).2).1 +
            B ^ xs.length * carried (carry step xs (step x c).2).2) := by
          rw [carry_cons, value_cons, List.length_cons]
          ring
      _ = digit (step x c).1 + B * carried (step x c).2 + B * value B item xs := by
          rw [hxs]
          ring
      _ = value B item (x :: xs) + carried c := by
          rw [hx, value_cons]
          ring

/-- What holds of every item and the carry it meets. -/
def Throughout (step : α → γ → β × γ) (holds : α → γ → Prop) : List α → γ → Prop
  | [], _ => True
  | x :: xs, c => holds x c ∧ Throughout step holds xs (step x c).2

/-- **An invariant of the carry** gives what it gives throughout. -/
theorem Throughout.of_invariant {holds : α → γ → Prop} {ok : γ → Prop} {xs : List α}
    (h : ∀ x ∈ xs, ∀ c, ok c → holds x c ∧ ok (step x c).2) {c : γ} (hc : ok c) :
    Throughout step holds xs c := by
  induction xs generalizing c with
  | nil => trivial
  | cons x xs ih =>
    obtain ⟨hx, hok⟩ := h x List.mem_cons_self c hc
    exact ⟨hx, ih (fun y hy => h y (List.mem_cons_of_mem x hy)) hok⟩

end EspMid.Lib.Limbs
