import EspMid.Lib.Divsteps
import Mathlib.Algebra.Order.Field.Rat
import Mathlib.Algebra.Order.Ring.Cast
import Mathlib.Tactic.FieldSimp
import Mathlib.Tactic.Linarith
import Mathlib.Tactic.NormNum
import Mathlib.Tactic.Positivity
import Mathlib.RingTheory.Multiplicity

/-! # How many divsteps suffice

From `zeta = -1` the steps run in excursions that come back to `zeta = -1`: with `g = 2 ^ i h` and
`h` odd, `i` halvings, the swap and `i` more steps take `f` to `h` and `g` to
`((2 j + 1) h - f) / 2 ^ (i + 1)` for some `j < 2 ^ i` (`excursion`). The norm of a pair is the
largest absolute value of some linear functionals on it, chosen so that every excursion shrinks the
norm by `rate` to the power of its steps (`Within.excursion`). That is a finite check: an image
depends on `j` linearly, so the least and the largest `j` bound the others, and from four halvings
on all numbers of halvings are checked at once. A pair with `g ≠ 0` cannot have a small norm
(`floor_lt`), so `590` steps bring `g` to zero from any `f` below `2 ^ 256` (`step_590`). -/

namespace EspMid.Lib.Divsteps

variable {s : State}

/-! ### Excursions -/

theorem step_of_even (hg : s.g % 2 = 0) : s.step = ⟨s.zeta - 1, s.f, s.g / 2⟩ := by
  unfold State.step State.kind
  rw [if_pos hg]

theorem step_of_swap (hg : s.g % 2 = 1) (hz : s.zeta < 0) :
    s.step = ⟨-s.zeta - 2, s.g, (s.g - s.f) / 2⟩ := by
  unfold State.step State.kind
  rw [if_neg (by omega), if_pos hz]

theorem step_of_nonneg (hg : s.g % 2 = 1) (hz : 0 ≤ s.zeta) :
    s.step = ⟨s.zeta - 1, s.f, (s.g + s.f) / 2⟩ := by
  unfold State.step State.kind
  rw [if_neg (by omega), if_neg (by omega)]

theorem halvings (zeta f h : ℤ) (i : ℕ) :
    State.step^[i] ⟨zeta, f, 2 ^ i * h⟩ = ⟨zeta - i, f, h⟩ := by
  induction i generalizing zeta with
  | zero => simp
  | succ i ih =>
    have hg : (2 : ℤ) ^ (i + 1) * h = 2 * (2 ^ i * h) := by ring
    rw [Function.iterate_succ_apply, step_of_even (by simp only; omega)]
    simp only
    rw [show (2 : ℤ) ^ (i + 1) * h / 2 = 2 ^ i * h by omega, ih]
    congr 1
    push_cast
    ring

theorem additions {z f g : ℤ} (hf : f % 2 = 1) (i : ℕ) (hz : (i : ℤ) ≤ z + 1) :
    ∃ e g' : ℤ, 0 ≤ e ∧ e < 2 ^ i ∧ 2 ^ i * g' = g + e * f ∧
      State.step^[i] ⟨z, f, g⟩ = ⟨z - i, f, g'⟩ := by
  induction i with
  | zero => exact ⟨0, g, le_rfl, by simp, by simp, by simp⟩
  | succ i ih =>
    push_cast at hz
    obtain ⟨e, g', he, hlt, heq, hrun⟩ := ih (by omega)
    rw [Function.iterate_succ_apply', hrun]
    rcases Int.emod_two_eq_zero_or_one g' with hg | hg
    · refine ⟨e, g' / 2, he, by rw [pow_succ]; omega, ?_, ?_⟩
      · have := two_mul_ediv hg
        rw [pow_succ]
        linear_combination heq + 2 ^ i * this
      · rw [step_of_even hg]
        congr 1
        push_cast
        ring
    · refine ⟨e + 2 ^ i, (g' + f) / 2, by positivity, by rw [pow_succ]; omega, ?_, ?_⟩
      · have := two_mul_ediv (show (g' + f) % 2 = 0 by omega)
        rw [pow_succ]
        linear_combination heq + 2 ^ i * this
      · rw [step_of_nonneg hg (by simp only; omega)]
        congr 1
        push_cast
        ring

/-- **An excursion** from `zeta = -1` back to it. -/
theorem excursion {f h : ℤ} (hf : f % 2 = 1) (hh : h % 2 = 1) (i : ℕ) :
    ∃ j g' : ℤ, 0 ≤ j ∧ j < 2 ^ i ∧ 2 ^ (i + 1) * g' = (2 * j + 1) * h - f ∧
      State.step^[2 * i + 1] ⟨-1, f, 2 ^ i * h⟩ = ⟨-1, h, g'⟩ := by
  obtain ⟨e, g', he, hlt, heq, hrun⟩ := additions (z := i - 1) (g := (h - f) / 2) hh i (by omega)
  refine ⟨e, g', he, hlt, ?_, ?_⟩
  · have := two_mul_ediv (show (h - f) % 2 = 0 by omega)
    rw [pow_succ]
    linear_combination 2 * heq + this
  · rw [show 2 * i + 1 = i + (1 + i) by omega, Function.iterate_add_apply,
      Function.iterate_add_apply]
    rw [show State.step^[i] (State.step^[1] (State.step^[i] ⟨-1, f, 2 ^ i * h⟩)) =
      State.step^[i] (State.step^[i] ⟨-1, f, 2 ^ i * h⟩).step from rfl, halvings,
      step_of_swap hh (by simp only; omega)]
    simp only
    rw [show -(-1 - (i : ℤ)) - 2 = i - 1 by ring, hrun]
    congr 1
    ring

/-! ### The norm -/

/-- The functionals of the norm, by angle. -/
def functionals : List (ℤ × ℤ) :=
  [(71422, 11637), (70188, 17784), (66049, 30384), (64446, 33968), (60277, 42798), (58814, 45703),
    (52023, 56358), (47247, 62295), (40167, 69571), (24330, 83425), (19476, 87086), (0, 100000),
    (-12013, 106838), (-28174, 114775), (-34743, 116256), (-38403, 115857), (-42888, 113855),
    (-51429, 107141), (-53685, 104541), (-61647, 92470), (-65862, 83981), (-70755, 71396),
    (-77531, 39467), (-78531, 31593), (-78262, 26379)]

/-- A functional at a pair. -/
def dot (w : ℤ × ℤ) (f g : ℤ) : ℚ := w.1 * f + w.2 * g

/-- The norm of a pair is at most `c`. -/
def Within (c : ℚ) (f g : ℤ) : Prop := ∀ l ∈ functionals, |dot l f g| ≤ c

/-- Twice the area that two functionals span. -/
def det (v w : ℤ × ℤ) : ℤ := v.1 * w.2 - v.2 * w.1

/-- Written in two neighbours of `functionals`, `w` has coefficients of sum at most `num / den`. -/
def Covers (num den : ℕ) (w : ℤ × ℤ) : Prop :=
  ∃ e ∈ functionals.zip (functionals.rotate 1), det e.1 e.2 ≠ 0 ∧
    ((det w e.2).natAbs + (det e.1 w).natAbs) * den ≤ num * (det e.1 e.2).natAbs

instance (num den : ℕ) (w : ℤ × ℤ) : Decidable (Covers num den w) :=
  inferInstanceAs (Decidable (∃ e ∈ functionals.zip (functionals.rotate 1), _))

theorem Covers.abs_le {num den : ℕ} {w : ℤ × ℤ} {c : ℚ} {f g : ℤ} (h : Covers num den w)
    (hc : 0 ≤ c) (hw : Within c f g) : |dot w f g| * den ≤ num * c := by
  obtain ⟨⟨v, v'⟩, hmem, hdet, hle⟩ := h
  simp only at hdet hle
  have hv := hw v (List.of_mem_zip hmem).1
  have hv' := hw v' (List.mem_rotate.mp (List.of_mem_zip hmem).2)
  have hcramer : (det v v' : ℚ) * dot w f g = det w v' * dot v f g + det v w * dot v' f g := by
    unfold dot det
    push_cast
    ring
  have hsum : |(det v v' : ℚ)| * |dot w f g| ≤ (|(det w v' : ℚ)| + |(det v w : ℚ)|) * c := by
    rw [← abs_mul, hcramer, add_mul]
    refine (abs_add_le _ _).trans ?_
    rw [abs_mul, abs_mul]
    exact add_le_add (mul_le_mul_of_nonneg_left hv (abs_nonneg _))
      (mul_le_mul_of_nonneg_left hv' (abs_nonneg _))
  have hle' : (|(det w v' : ℚ)| + |(det v w : ℚ)|) * den ≤ num * |(det v v' : ℚ)| := by
    have : (((det w v').natAbs + (det v w).natAbs) * den : ℚ) ≤ num * (det v v').natAbs := by
      exact_mod_cast hle
    simpa only [Nat.cast_natAbs, Int.cast_abs] using this
  have hpos : 0 < |(det v v' : ℚ)| := abs_pos.mpr (by exact_mod_cast hdet)
  refine le_of_mul_le_mul_left ?_ hpos
  calc |(det v v' : ℚ)| * (|dot w f g| * den) = |(det v v' : ℚ)| * |dot w f g| * den := by ring
    _ ≤ (|(det w v' : ℚ)| + |(det v w : ℚ)|) * c * den :=
        mul_le_mul_of_nonneg_right hsum (Nat.cast_nonneg den)
    _ = (|(det w v' : ℚ)| + |(det v w : ℚ)|) * den * c := by ring
    _ ≤ num * |(det v v' : ℚ)| * c := mul_le_mul_of_nonneg_right hle' hc
    _ = |(det v v' : ℚ)| * (num * c) := by ring

theorem abs_le_of_ends {x y t a b c : ℚ} (ha : a ≤ t) (hb : t ≤ b) (h : |x + a * y| ≤ c)
    (h' : |x + b * y| ≤ c) : |x + t * y| ≤ c := by
  rw [abs_le] at h h' ⊢
  rcases le_total 0 y with hy | hy
  · have hl := mul_le_mul_of_nonneg_right ha hy
    have hr := mul_le_mul_of_nonneg_right hb hy
    constructor <;> linarith
  · have hl := mul_le_mul_of_nonpos_right ha hy
    have hr := mul_le_mul_of_nonpos_right hb hy
    constructor <;> linarith

/-- What a step shrinks the norm by, on average. -/
def rate : ℚ := 3701 / 5000

/-! ### An excursion shrinks the norm -/

/-- `2 ^ (2 k - 1)` times what a functional is after `k - 1` halvings, with `t = 2 j + 1`. -/
def image (k : ℕ) (t : ℤ) (l : ℤ × ℤ) : ℤ × ℤ := (-2 ^ (k - 1) * l.2, 2 ^ k * l.1 + t * l.2)

/-- The ends of the segment of images, for up to three halvings. -/
theorem covers_image : ∀ k ∈ [1, 2, 3, 4], ∀ l ∈ functionals, ∀ t ∈ [(1 : ℤ), 2 ^ k - 1],
    Covers (7402 ^ (2 * k - 1)) (5000 ^ (2 * k - 1)) (image k t l) := by
  decide +kernel

/-- The ends of a segment around all images, for four halvings or more. -/
theorem covers_limit : ∀ l ∈ functionals, ∀ t ∈ [(0 : ℤ), 2],
    Covers (2 ^ 5 * 3701 ^ 9) (5000 ^ 9) (-l.2, 2 * l.1 + t * l.2) := by
  decide +kernel

theorem image_dot {f h g' j : ℤ} (i : ℕ) (he : 2 ^ (i + 1) * g' = (2 * j + 1) * h - f)
    (l : ℤ × ℤ) :
    2 ^ (2 * i + 1) * dot l h g' = dot (image (i + 1) (2 * j + 1) l) f (2 ^ i * h) := by
  have he' : (2 : ℚ) ^ (i + 1) * g' = (2 * j + 1) * h - f := by exact_mod_cast he
  have hpow : (2 : ℚ) ^ (2 * i + 1) = 2 ^ i * 2 ^ (i + 1) := by ring
  unfold dot image
  rw [hpow, Nat.add_sub_cancel]
  push_cast
  linear_combination 2 ^ i * l.2 * he'

theorem Within.image_le {c : ℚ} {f g : ℤ} (hc : 0 ≤ c) (hw : Within c f g) {k : ℕ}
    (hk : k ∈ [1, 2, 3, 4]) {t : ℤ} (ht : 1 ≤ t) (ht' : t ≤ 2 ^ k - 1) {l : ℤ × ℤ}
    (hl : l ∈ functionals) :
    |dot (image k t l) f g| ≤ 2 ^ (2 * k - 1) * (rate ^ (2 * k - 1) * c) := by
  have hend {t : ℤ} (ht : t ∈ [(1 : ℤ), 2 ^ k - 1]) :
      |dot (image k t l) f g| ≤ 2 ^ (2 * k - 1) * (rate ^ (2 * k - 1) * c) := by
    have h := (covers_image k hk l hl t ht).abs_le hc hw
    have hrate : (2 : ℚ) ^ (2 * k - 1) * rate ^ (2 * k - 1) =
        7402 ^ (2 * k - 1) / 5000 ^ (2 * k - 1) := by
      rw [← mul_pow, ← div_pow]
      norm_num [rate]
    rw [← mul_assoc, hrate, div_mul_eq_mul_div, le_div_iff₀ (by positivity)]
    exact_mod_cast h
  have hline (t : ℤ) : dot (image k t l) f g =
      (-2 ^ (k - 1) * l.2 * f + 2 ^ k * l.1 * g) + t * (l.2 * g) := by
    unfold dot image
    push_cast
    ring
  rw [hline]
  refine abs_le_of_ends (a := ((1 : ℤ) : ℚ)) (b := ((2 ^ k - 1 : ℤ) : ℚ))
    (by exact_mod_cast ht) (by exact_mod_cast ht') ?_ ?_
  · rw [← hline]
    exact hend (by simp)
  · rw [← hline]
    exact hend (by simp)

theorem Within.limit_le {c : ℚ} {f g : ℤ} (hc : 0 ≤ c) (hw : Within c f g) {k : ℕ} (hk : 5 ≤ k)
    {t : ℤ} (ht : 0 ≤ t) (ht' : t ≤ 2 ^ k) {l : ℤ × ℤ} (hl : l ∈ functionals) :
    |dot (image k t l) f g| ≤ 2 ^ (2 * k - 1) * (rate ^ (2 * k - 1) * c) := by
  obtain ⟨n, rfl⟩ := Nat.exists_eq_add_of_le hk
  have hend {t : ℤ} (ht : t ∈ [(0 : ℤ), 2]) :
      |dot (-l.2, 2 * l.1 + t * l.2) f g| ≤ 2 ^ 5 * rate ^ 9 * c := by
    have h := (covers_limit l hl t ht).abs_le hc hw
    rw [rate, div_pow, mul_div_assoc', div_mul_eq_mul_div, le_div_iff₀ (by positivity)]
    exact_mod_cast h
  have hline (t : ℤ) : dot (-l.2, 2 * l.1 + t * l.2) f g =
      (-l.2 * f + 2 * l.1 * g) + t * (l.2 * g) := by
    unfold dot
    push_cast
    ring
  have himage : dot (image (5 + n) t l) f g = 2 ^ (4 + n) *
      ((-l.2 * f + 2 * l.1 * g) + t / 2 ^ (4 + n) * (l.2 * g)) := by
    have hpow : (2 : ℚ) ^ (5 + n) = 2 ^ (4 + n) * 2 := by ring
    unfold dot image
    rw [show 5 + n - 1 = 4 + n by omega]
    push_cast
    rw [hpow]
    field_simp
    ring
  have hle :
      |(-l.2 * f + 2 * l.1 * g : ℚ) + t / 2 ^ (4 + n) * (l.2 * g)| ≤ 2 ^ 5 * rate ^ 9 * c := by
    refine abs_le_of_ends (a := ((0 : ℤ) : ℚ)) (b := ((2 : ℤ) : ℚ)) ?_ ?_ ?_ ?_
    · have : (0 : ℚ) ≤ t := by exact_mod_cast ht
      push_cast
      positivity
    · rw [div_le_iff₀ (by positivity)]
      have : (t : ℚ) ≤ 2 ^ (5 + n) := by exact_mod_cast ht'
      calc (t : ℚ) ≤ 2 ^ (5 + n) := this
        _ = ((2 : ℤ) : ℚ) * 2 ^ (4 + n) := by push_cast; ring
    · rw [← hline]
      exact hend (by simp)
    · rw [← hline]
      exact hend (by simp)
  have hgrow : (1 : ℚ) ≤ (2 * rate ^ 2) ^ n := one_le_pow₀ (by norm_num [rate])
  have hrate : 0 ≤ rate := by norm_num [rate]
  rw [himage, abs_mul, abs_of_pos (by positivity)]
  calc 2 ^ (4 + n) * |(-l.2 * f + 2 * l.1 * g : ℚ) + t / 2 ^ (4 + n) * (l.2 * g)|
      ≤ 2 ^ (4 + n) * (2 ^ 5 * rate ^ 9 * c) := mul_le_mul_of_nonneg_left hle (by positivity)
    _ ≤ 2 ^ (4 + n) * (2 ^ 5 * rate ^ 9 * c) * (2 * rate ^ 2) ^ n :=
        le_mul_of_one_le_right (by positivity) hgrow
    _ = 2 ^ (2 * (5 + n) - 1) * (rate ^ (2 * (5 + n) - 1) * c) := by
        rw [show 2 * (5 + n) - 1 = 9 + 2 * n by omega, mul_pow]
        ring

/-- **An excursion shrinks the norm** by the rate to the power of its steps. -/
theorem Within.excursion {c : ℚ} {f h g' j : ℤ} {i : ℕ} (hc : 0 ≤ c)
    (hw : Within c f (2 ^ i * h)) (hj : 0 ≤ j) (hj' : j < 2 ^ i)
    (he : 2 ^ (i + 1) * g' = (2 * j + 1) * h - f) : Within (rate ^ (2 * i + 1) * c) h g' := by
  intro l hl
  have hpow : (2 : ℤ) ^ (i + 1) = 2 * 2 ^ i := by ring
  have himage : |dot (image (i + 1) (2 * j + 1) l) f (2 ^ i * h)| ≤
      2 ^ (2 * (i + 1) - 1) * (rate ^ (2 * (i + 1) - 1) * c) := by
    by_cases hi : 5 ≤ i + 1
    · exact hw.limit_le hc hi (by omega) (by omega) hl
    · have hk : i + 1 ∈ [1, 2, 3, 4] := by
        simp only [List.mem_cons, List.not_mem_nil, or_false]
        omega
      exact hw.image_le hc hk (by omega) (by omega) hl
  rw [show 2 * (i + 1) - 1 = 2 * i + 1 by omega, ← image_dot i he, abs_mul,
    abs_of_pos (by positivity)] at himage
  exact le_of_mul_le_mul_left himage (by positivity)

/-! ### The number of steps -/

theorem exists_eq_pow_mul {g : ℤ} (hg : g ≠ 0) : ∃ (i : ℕ) (h : ℤ), h % 2 = 1 ∧ g = 2 ^ i * h := by
  have hfin : FiniteMultiplicity 2 g := Int.finiteMultiplicity_iff.mpr ⟨by decide, hg⟩
  obtain ⟨h, heq, hh⟩ := hfin.exists_eq_pow_mul_and_not_dvd
  exact ⟨multiplicity 2 g, h, by omega, heq⟩

/-- What the norm of a pair with `g ≠ 0` cannot stay below. -/
def floor : ℚ := 109000

theorem floor_lt_of_odd {c : ℚ} {f g : ℤ} (hf : f % 2 = 1) (hg : g % 2 = 1) (hw : Within c f g) :
    floor < c := by
  have hbound {a b : ℤ} (hl : (a, b) ∈ functionals) (h : 109000 < |a * f + b * g|) : floor < c := by
    have h' : floor < |dot (a, b) f g| := by
      unfold dot floor
      exact_mod_cast h
    exact h'.trans_le (hw _ hl)
  by_cases hg3 : 3 ≤ |g|
  · refine hbound (a := 0) (b := 100000) (by decide) ?_
    rw [zero_mul, zero_add, abs_mul, abs_of_pos (by decide)]
    omega
  · by_cases hf3 : 3 ≤ |f|
    · refine hbound (a := -78531) (b := 31593) (by decide) ?_
      rw [lt_abs]
      rw [le_abs] at hg3 hf3
      omega
    · rw [le_abs] at hg3 hf3
      by_cases hs : f = g
      · refine hbound (a := 40167) (b := 69571) (by decide) ?_
        rw [lt_abs]
        omega
      · refine hbound (a := -53685) (b := 104541) (by decide) ?_
        rw [lt_abs]
        omega

/-- With `2 i` steps left the norm of a pair with `g = 2 ^ i h` is still above the floor. -/
theorem floor_lt {c : ℚ} {f h : ℤ} {i : ℕ} (hf : f % 2 = 1) (hh : h % 2 = 1)
    (hw : Within c f (2 ^ i * h)) : floor < rate ^ (2 * i) * c := by
  cases i with
  | zero =>
    rw [mul_zero, pow_zero, one_mul]
    rw [pow_zero, one_mul] at hw
    exact floor_lt_of_odd hf hh hw
  | succ i =>
    have hg : (100000 : ℚ) * 2 ^ (i + 1) ≤ c := by
      refine le_trans ?_ (hw (0, 100000) (by decide))
      have hh' : (1 : ℚ) ≤ |(h : ℚ)| := by
        have : (1 : ℤ) ≤ |h| := Int.one_le_abs (by omega)
        exact_mod_cast this
      unfold dot
      push_cast
      rw [zero_mul, zero_add, abs_mul, abs_mul, abs_of_pos (by norm_num : (0 : ℚ) < 100000),
        abs_of_pos (by positivity : (0 : ℚ) < 2 ^ (i + 1))]
      exact mul_le_mul_of_nonneg_left (le_mul_of_one_le_right (by positivity) hh') (by norm_num)
    have hgrow : (1 : ℚ) ≤ (2 * rate ^ 2) ^ i := one_le_pow₀ (by norm_num [rate])
    calc floor < 100000 * (2 * rate ^ 2) := by norm_num [floor, rate]
      _ ≤ 100000 * (2 * rate ^ 2) * (2 * rate ^ 2) ^ i :=
          le_mul_of_one_le_right (by norm_num [rate]) hgrow
      _ = rate ^ (2 * (i + 1)) * (100000 * 2 ^ (i + 1)) := by
          rw [mul_pow]
          ring
      _ ≤ rate ^ (2 * (i + 1)) * c := mul_le_mul_of_nonneg_left hg (by norm_num [rate])

/-- **The steps that are enough** for a norm. -/
theorem g_eq_zero_of_within (n : ℕ) : ∀ {c : ℚ} {f g : ℤ}, f % 2 = 1 → 0 ≤ c → Within c f g →
    rate ^ n * c ≤ floor → (State.step^[n] ⟨-1, f, g⟩).g = 0 := by
  induction n using Nat.strong_induction_on with
  | h n ih =>
    intro c f g hf hc hw hle
    rcases eq_or_ne g 0 with hg | hg
    · rw [← run_fst]
      exact run_g_zero hf hg n
    · obtain ⟨i, h, hh, rfl⟩ := exists_eq_pow_mul hg
      have hrate : 0 ≤ rate := by norm_num [rate]
      by_cases hn : n ≤ 2 * i
      · have hlt := floor_lt hf hh hw
        have hmono : rate ^ (2 * i) ≤ rate ^ n :=
          pow_le_pow_of_le_one hrate (by norm_num [rate]) hn
        exact absurd (mul_le_mul_of_nonneg_right hmono hc) (by linarith)
      · obtain ⟨m, rfl⟩ := Nat.exists_eq_add_of_lt (not_le.mp hn)
        obtain ⟨j, g', hj, hj', he, hrun⟩ := excursion hf hh i
        rw [show 2 * i + m + 1 = m + (2 * i + 1) by omega, Function.iterate_add_apply, hrun]
        refine ih m (by omega) hh (by positivity) (hw.excursion hc hj hj' he) ?_
        rw [← mul_assoc, ← pow_add]
        rwa [show m + (2 * i + 1) = 2 * i + m + 1 by omega]

/-- A pair with `0 ≤ g ≤ f` has a norm at most `109738 f`. -/
theorem within_of_le {f g : ℤ} (hg : 0 ≤ g) (hgf : g ≤ f) : Within (109738 * f) f g := by
  intro l hl
  have hcoef : ∀ l ∈ functionals, |l.1| ≤ 109738 ∧ |l.1 + l.2| ≤ 109738 := by decide +kernel
  obtain ⟨hfst, hsum⟩ := hcoef l hl
  rw [abs_le] at hfst hsum
  have h : |l.1 * f + l.2 * g| ≤ 109738 * f := by
    rw [abs_le]
    constructor <;> nlinarith
  unfold dot
  exact_mod_cast h

/-- **`590` steps** from `zeta = -1` bring `g` to zero, for every odd `f` below `2 ^ 256` and `g`
between zero and `f`. -/
theorem step_590 {f g : ℤ} (hf : f % 2 = 1) (hlt : f < 2 ^ 256) (hg : 0 ≤ g) (hgf : g ≤ f) :
    (State.step^[590] ⟨-1, f, g⟩).g = 0 := by
  have hf0 : (0 : ℚ) ≤ f := by exact_mod_cast hg.trans hgf
  refine g_eq_zero_of_within 590 hf (by positivity) (within_of_le hg hgf) ?_
  have hcert : 109738 * 2 ^ 256 * 3701 ^ 590 ≤ 109000 * 5000 ^ 590 := by decide +kernel
  have hlt' : (f : ℚ) ≤ 2 ^ 256 := by exact_mod_cast hlt.le
  rw [rate, div_pow, div_mul_eq_mul_div, div_le_iff₀ (by positivity), floor]
  calc (3701 : ℚ) ^ 590 * (109738 * f) ≤ 3701 ^ 590 * (109738 * 2 ^ 256) :=
        mul_le_mul_of_nonneg_left (mul_le_mul_of_nonneg_left hlt' (by norm_num)) (by positivity)
    _ = 109738 * 2 ^ 256 * 3701 ^ 590 := mul_comm _ _
    _ ≤ 109000 * 5000 ^ 590 := by exact_mod_cast hcert

end EspMid.Lib.Divsteps
