import Mathlib.Algebra.Order.Ring.Abs
import Mathlib.Algebra.Ring.Int.Parity
import Mathlib.Data.Int.GCD
import Mathlib.Data.Int.ModEq
import Mathlib.Data.Nat.Prime.Basic
import Mathlib.Tactic.LinearCombination
import Mathlib.Tactic.Ring

/-! # Divsteps

The division steps of Bernstein and Yang over the integers, with `zeta = -(delta + 1/2)`: from an
odd `f` a step halves `g`, or `g` with `f` added or taken off, and swaps them when it took `f` off.
The steps keep the greatest common divisor (`gcd_run`), and the transition matrix of `k` of them gives
the pair exactly over `2 ^ k` (`run_eq`) with rows at most `2 ^ k` (`run_le`). -/

namespace EspMid.Lib.Divsteps

/-- What a step reads and writes. -/
structure State where
  zeta : ℤ
  f : ℤ
  g : ℤ

/-- Rows `(u, v)` and `(q, r)`. -/
structure Matrix where
  u : ℤ
  v : ℤ
  q : ℤ
  r : ℤ

/-- Which of the three steps is taken. -/
inductive Kind
  | swap
  | add
  | halve

/-- The step from a state. -/
def State.kind (s : State) : Kind :=
  if s.g % 2 = 0 then .halve else if s.zeta < 0 then .swap else .add

/-- A step. -/
def State.step (s : State) : State :=
  match s.kind with
  | .swap => ⟨-s.zeta - 2, s.g, (s.g - s.f) / 2⟩
  | .add => ⟨s.zeta - 1, s.f, (s.g + s.f) / 2⟩
  | .halve => ⟨s.zeta - 1, s.f, s.g / 2⟩

/-- The matrix with a step more, doubled so as to stay whole. -/
def Matrix.step (t : Matrix) : Kind → Matrix
  | .swap => ⟨2 * t.q, 2 * t.r, t.q - t.u, t.r - t.v⟩
  | .add => ⟨2 * t.u, 2 * t.v, t.q + t.u, t.r + t.v⟩
  | .halve => ⟨2 * t.u, 2 * t.v, t.q, t.r⟩

/-- Steps with their matrix. -/
def next (w : State × Matrix) : State × Matrix := (w.1.step, w.2.step w.1.kind)

/-- `k` steps from a state, with their matrix. -/
def run (s : State) : ℕ → State × Matrix
  | 0 => (s, ⟨1, 0, 0, 1⟩)
  | k + 1 => next (run s k)

theorem run_succ (s : State) (k : ℕ) : run s (k + 1) = next (run s k) := rfl

theorem run_fst (s : State) (k : ℕ) : (run s k).1 = State.step^[k] s := by
  induction k with
  | zero => rfl
  | succ k ih => rw [run_succ, next, ih, Function.iterate_succ_apply']

theorem run_add (s : State) (j k : ℕ) : (run s (j + k)).1 = (run (run s j).1 k).1 := by
  rw [run_fst, run_fst, run_fst, Nat.add_comm, Function.iterate_add_apply]

/-! ### One step -/

variable {s : State}

theorem two_mul_ediv {x : ℤ} (h : x % 2 = 0) : 2 * (x / 2) = x := by omega

/-- What a step from an odd `f` does, with the halving undone. -/
theorem step_cases (hf : s.f % 2 = 1) :
    (s.kind = .halve ∧ s.g % 2 = 0 ∧ s.step.zeta = s.zeta - 1 ∧ s.step.f = s.f ∧
        2 * s.step.g = s.g) ∨
      (s.kind = .swap ∧ s.g % 2 = 1 ∧ s.zeta < 0 ∧ s.step.zeta = -s.zeta - 2 ∧ s.step.f = s.g ∧
        2 * s.step.g = s.g - s.f) ∨
      (s.kind = .add ∧ s.g % 2 = 1 ∧ 0 ≤ s.zeta ∧ s.step.zeta = s.zeta - 1 ∧ s.step.f = s.f ∧
        2 * s.step.g = s.g + s.f) := by
  unfold State.step State.kind
  by_cases hg : s.g % 2 = 0
  · rw [if_pos hg]
    exact Or.inl ⟨rfl, hg, rfl, rfl, two_mul_ediv hg⟩
  · rw [if_neg hg]
    have hodd : s.g % 2 = 1 := by omega
    by_cases hz : s.zeta < 0
    · rw [if_pos hz]
      exact Or.inr (Or.inl ⟨rfl, hodd, hz, rfl, rfl, two_mul_ediv (by omega)⟩)
    · rw [if_neg hz]
      exact Or.inr (Or.inr ⟨rfl, hodd, by omega, rfl, rfl, two_mul_ediv (by omega)⟩)

theorem step_f_odd (hf : s.f % 2 = 1) : s.step.f % 2 = 1 := by
  obtain ⟨-, -, -, h, -⟩ | ⟨-, hg, -, -, h, -⟩ | ⟨-, -, -, -, h, -⟩ := step_cases hf
  · rwa [h]
  · rwa [h]
  · rwa [h]

theorem gcd_step (hf : s.f % 2 = 1) : Int.gcd s.step.f s.step.g = Int.gcd s.f s.g := by
  have hhalf {x y : ℤ} (hx : x % 2 = 1) : Int.gcd x (2 * y) = Int.gcd x y := by
    refine Int.gcd_mul_right_right_of_gcd_eq_one ?_
    exact Nat.coprime_two_right.mpr (Nat.odd_iff.mpr (by omega))
  obtain ⟨-, -, -, h, e⟩ | ⟨-, hg, -, -, h, e⟩ | ⟨-, -, -, -, h, e⟩ := step_cases hf
  · rw [h, ← hhalf hf, e]
  · rw [h, ← hhalf hg, e, Int.gcd_self_sub_right, Int.gcd_comm]
  · rw [h, ← hhalf hf, e, Int.gcd_add_self_right]

theorem abs_step_le (hf : s.f % 2 = 1) {m : ℤ} (h : |s.f| ≤ m ∧ |s.g| ≤ m) :
    |s.step.f| ≤ m ∧ |s.step.g| ≤ m := by
  have hf' := abs_le.mp h.1
  have hg' := abs_le.mp h.2
  obtain ⟨-, -, -, e, e'⟩ | ⟨-, -, -, -, e, e'⟩ | ⟨-, -, -, -, e, e'⟩ := step_cases hf
  all_goals
    rw [e, abs_le, abs_le]
    omega

/-! ### Runs -/

theorem run_f_odd (hf : s.f % 2 = 1) (k : ℕ) : (run s k).1.f % 2 = 1 := by
  induction k with
  | zero => exact hf
  | succ k ih => exact step_f_odd ih

theorem gcd_run (hf : s.f % 2 = 1) (k : ℕ) :
    Int.gcd (run s k).1.f (run s k).1.g = Int.gcd s.f s.g := by
  induction k with
  | zero => rfl
  | succ k ih => exact (gcd_step (run_f_odd hf k)).trans ih

theorem abs_run_le (hf : s.f % 2 = 1) {m : ℤ} (h : |s.f| ≤ m ∧ |s.g| ≤ m) (k : ℕ) :
    |(run s k).1.f| ≤ m ∧ |(run s k).1.g| ≤ m := by
  induction k with
  | zero => exact h
  | succ k ih => exact abs_step_le (run_f_odd hf k) ih

theorem run_g_zero (hf : s.f % 2 = 1) (hg : s.g = 0) (k : ℕ) : (run s k).1.g = 0 := by
  induction k with
  | zero => exact hg
  | succ k ih =>
    obtain ⟨-, -, -, -, e⟩ | ⟨-, h, -⟩ | ⟨-, h, -⟩ := step_cases (run_f_odd hf k)
    · change ((run s k).1.step).g = 0
      omega
    · omega
    · omega

theorem run_v_zero (hf : s.f % 2 = 1) (hg : s.g = 0) (k : ℕ) : (run s k).2.v = 0 := by
  induction k with
  | zero => rfl
  | succ k ih =>
    have hgk := run_g_zero hf hg k
    obtain ⟨hk, -⟩ | ⟨-, h, -⟩ | ⟨-, h, -⟩ := step_cases (run_f_odd hf k)
    · rw [run_succ]
      simp only [next, hk, Matrix.step, ih, mul_zero]
    · omega
    · omega

theorem zeta_run_le (s : State) (k : ℕ) : |(run s k).1.zeta| ≤ |s.zeta| + 2 * k := by
  induction k with
  | zero => simp [run]
  | succ k ih =>
    have hz := abs_le.mp ih
    have hstep : |(run s k).1.step.zeta| ≤ |s.zeta| + 2 * (k + 1) := by
      rw [abs_le]
      unfold State.step
      split <;> simp only <;> omega
    rw [run_succ, next]
    push_cast
    exact hstep

/-- **The matrix of a run** gives the pair over the power of two. -/
theorem run_eq (hf : s.f % 2 = 1) (k : ℕ) :
    2 ^ k * (run s k).1.f = (run s k).2.u * s.f + (run s k).2.v * s.g ∧
      2 ^ k * (run s k).1.g = (run s k).2.q * s.f + (run s k).2.r * s.g := by
  induction k with
  | zero => simp [run]
  | succ k ih =>
    obtain ⟨hu, hq⟩ := ih
    rw [run_succ]
    simp only [next]
    obtain ⟨hk, -, -, h, e⟩ | ⟨hk, -, -, -, h, e⟩ | ⟨hk, -, -, -, h, e⟩ :=
      step_cases (run_f_odd hf k)
    · rw [hk, h]
      simp only [Matrix.step]
      constructor
      · linear_combination 2 * hu
      · linear_combination hq + 2 ^ k * e
    · rw [hk, h]
      simp only [Matrix.step]
      constructor
      · linear_combination 2 * hq
      · linear_combination hq - hu + 2 ^ k * e
    · rw [hk, h]
      simp only [Matrix.step]
      constructor
      · linear_combination 2 * hu
      · linear_combination hq + hu + 2 ^ k * e

/-- **The rows of the matrix** are at most the power of two. -/
theorem run_le (s : State) (k : ℕ) :
    |(run s k).2.u| + |(run s k).2.v| ≤ 2 ^ k ∧ |(run s k).2.q| + |(run s k).2.r| ≤ 2 ^ k := by
  induction k with
  | zero => simp [run]
  | succ k ih =>
    obtain ⟨hu, hq⟩ := ih
    rw [run_succ]
    simp only [next]
    generalize (run s k).2 = t at hu hq ⊢
    have hsubq := abs_sub t.q t.u
    have hsubr := abs_sub t.r t.v
    have haddq := abs_add_le t.q t.u
    have haddr := abs_add_le t.r t.v
    have hu0 := abs_nonneg t.u
    have hv0 := abs_nonneg t.v
    have hq0 := abs_nonneg t.q
    have hr0 := abs_nonneg t.r
    rw [pow_succ]
    cases (run s k).1.kind with
    | swap =>
      simp only [Matrix.step, abs_mul, abs_two]
      omega
    | add =>
      simp only [Matrix.step, abs_mul, abs_two]
      omega
    | halve =>
      simp only [Matrix.step, abs_mul, abs_two]
      omega

theorem half_modEq {x y : ℤ} {k : ℕ} (hx : x % 2 = 0) (h : x ≡ y [ZMOD 2 ^ (k + 1)]) :
    x / 2 ≡ y / 2 [ZMOD 2 ^ k] := by
  have hy : y % 2 = 0 := by
    have := h.of_dvd (dvd_pow_self 2 (Nat.succ_ne_zero k))
    rwa [Int.ModEq, hx, eq_comm] at this
  obtain ⟨c, hc⟩ := h.dvd
  refine (Int.modEq_iff_dvd).mpr ⟨c, ?_⟩
  rw [pow_succ] at hc
  have hx' := two_mul_ediv hx
  have hy' := two_mul_ediv hy
  rw [mul_right_comm] at hc
  omega

end EspMid.Lib.Divsteps
