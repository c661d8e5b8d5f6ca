import EspMid.P256.Field

/-! # The square

The square takes each product of two different limbs once, doubles them all and adds the squares of
the limbs (`wideSquare_spec`), then reduces in place, each round rippling its carry to the top. It
gives limbs of the same residue as the multiply's (`feSquareRust_spec`). -/

namespace EspMid.P256.Square

open EspMid.Lib.Limbs EspMid.Lib.Words EspMid.Lib.Montgomery EspMid.Model.Field32
open EspMid.P256.Chains EspMid.P256.Field

/-! ### Cross products and squares -/

/-- The products of two different limbs, each once. -/
def cross : List UInt32 → ℕ
  | [] => 0
  | x :: xs => 2 ^ 32 * (x.toNat * toNat xs) + 2 ^ 64 * cross xs

/-- The squares of the limbs. -/
def squares (a : List UInt32) : ℕ := value (2 ^ 64) (fun x => x.toNat * x.toNat) a

theorem two_cross_add_squares (a : List UInt32) : 2 * cross a + squares a = toNat a * toNat a := by
  induction a with
  | nil => rfl
  | cons x xs ih =>
    rw [cross, squares, value_cons, toNat_cons]
    rw [squares] at ih
    linear_combination 2 ^ 64 * ih

theorem cross_drop {a : Fe} {i : ℕ} (hi : i < a.length) :
    cross (a.drop i) =
      2 ^ 32 * ((a.getD i 0).toNat * toNat (a.drop (i + 1))) + 2 ^ 64 * cross (a.drop (i + 1)) := by
  rw [List.drop_eq_getElem_cons hi, cross, List.getD_eq_getElem _ _ hi]

/-- Before row `i`: the rows below it are in, and nothing is above them. -/
structure Rows (a : Fe) (i : ℕ) (t : List UInt32) : Prop where
  length : t.length = 17
  above : t.drop (i + 8) = List.replicate (9 - i) 0
  value : toNat t + (2 ^ 32) ^ (2 * i) * cross (a.drop i) = cross a

theorem Rows.step {a : Fe} (ha : a.length = 8) {i : ℕ} (hi : i < 7) {t : List UInt32}
    (h : Rows a i t) : Rows a (i + 1) (crossRow a t i) := by
  have hlen := h.length
  have hdrop : (a.drop (i + 1)).length = 7 - i := by rw [List.length_drop, ha]; omega
  have hz : t.getD (2 * i + 1 + (a.drop (i + 1)).length) 0 = 0 := by
    rw [hdrop, show 2 * i + 1 + (7 - i) = i + 8 by omega]
    exact getD_of_drop_zero h.above (by omega)
  obtain ⟨hrow, hval, habove⟩ := mac_row (a.getD i 0) (t := t) (i := 2 * i + 1) (by omega) hz
  refine ⟨hrow.trans hlen, ?_, ?_⟩
  · rw [crossRow, habove _ (by omega), show i + 1 + 8 = i + 8 + 1 by omega, ← List.drop_drop,
      h.above, List.drop_replicate]
    congr 1
  · have hc := cross_drop (a := a) (i := i) (by omega)
    have hsum := h.value
    rw [hc] at hsum
    rw [crossRow, hval]
    linear_combination hsum

theorem Rows.zero (a : Fe) : Rows a 0 (List.replicate 17 0) :=
  ⟨rfl, rfl, by rw [toNat_replicate_zero]; simp⟩

theorem rows_spec {a : Fe} (ha : a.length = 8) :
    Rows a 7 ((List.range 7).foldl (crossRow a) (List.replicate 17 0)) :=
  range_loop (fun _ hi _ h => Rows.step ha hi h) (Rows.zero a)

/-! ### Doubling -/

theorem doubleStep_eq (x : UInt32) {c : UInt32} (hc : c.toNat ≤ 1) :
    (doubleStep x c).1.toNat + 2 ^ 32 * (doubleStep x c).2.toNat = x.toNat * 2 + c.toNat := by
  have hx := x.toNat_lt
  have hshift : (x.toUInt64 <<< 1).toNat = 2 ^ 1 * x.toNat := by
    have hfits : x.toNat * 2 ^ 1 < 2 ^ 64 := by omega
    rw [UInt64.toNat_shiftLeft, toNat_wide, Nat.shiftLeft_eq]
    rw [show (UInt64.toNat 1 % 64) = 1 from rfl, Nat.mod_eq_of_lt hfits, mul_comm]
  have hor : ((x.toUInt64 <<< 1) ||| c.toUInt64).toNat = 2 * x.toNat + c.toNat := by
    rw [UInt64.toNat_or, hshift, toNat_wide, ← Nat.two_pow_add_eq_or_of_lt (by omega)]
  rw [doubleStep, toNat_low, hor, toNat_top]
  omega

theorem double_chain (xs : List UInt32) :
    toNat (carry doubleStep xs 0).1 + (2 ^ 32) ^ xs.length * (carry doubleStep xs 0).2.toNat =
      toNat xs * 2 := by
  have hstep : ∀ x ∈ xs, Keeps (2 ^ 32) (fun x => x.toNat * 2) UInt32.toNat UInt32.toNat
      (fun c => c.toNat ≤ 1) doubleStep x := by
    intro x _ c hc
    refine ⟨doubleStep_eq x hc, ?_⟩
    have hx := x.toNat_lt
    change (x >>> 31).toNat ≤ 1
    rw [toNat_top]
    omega
  have hv := (value_carry hstep (c := 0) (by decide)).1
  rw [value_mul, show UInt32.toNat 0 = 0 from rfl, add_zero] at hv
  exact hv

/-! ### Words two by two -/

/-- A pair of words as a number. -/
def pairNat (z : UInt32 × UInt32) : ℕ := z.1.toNat + 2 ^ 32 * z.2.toNat

theorem length_pairs : ∀ {k : ℕ} {t : List UInt32}, t.length = 2 * k → (pairs t).length = k
  | 0, [], _ => rfl
  | 0, _ :: _, h => by simp at h
  | k + 1, [], h => by simp at h
  | k + 1, [_], h => by simp at h; omega
  | k + 1, _ :: _ :: t, h => by
    have ht : t.length = 2 * k := by simp at h; omega
    rw [pairs, List.length_cons, length_pairs ht]

theorem value_pairs : ∀ {k : ℕ} {t : List UInt32}, t.length = 2 * k →
    value (2 ^ 64) pairNat (pairs t) = toNat t
  | 0, [], _ => rfl
  | 0, _ :: _, h => by simp at h
  | k + 1, [], h => by simp at h
  | k + 1, [_], h => by simp at h; omega
  | k + 1, x :: y :: t, h => by
    have ht : t.length = 2 * k := by simp at h; omega
    rw [pairs, value_cons, value_pairs ht, toNat_cons, toNat_cons, pairNat]
    ring

theorem toNat_flatMap (l : List (UInt32 × UInt32)) :
    toNat (l.flatMap fun z => [z.1, z.2]) = value (2 ^ 64) pairNat l := by
  induction l with
  | nil => rfl
  | cons z l ih =>
    rw [List.flatMap_cons, toNat_append, ih, value_cons, pairNat, toNat_cons, toNat_cons,
      show toNat [] = 0 from rfl]
    simp only [List.length_cons, List.length_nil]
    ring

theorem length_flatMap (l : List (UInt32 × UInt32)) :
    (l.flatMap fun z => [z.1, z.2]).length = 2 * l.length := by
  induction l with
  | nil => rfl
  | cons z l ih =>
    rw [List.flatMap_cons, List.length_append, ih, List.length_cons]
    simp only [List.length_cons, List.length_nil]
    ring

theorem squareStep_eq (z : (UInt32 × UInt32) × UInt32) (c : UInt32) :
    pairNat (squareStep z c).1 + 2 ^ 64 * (squareStep z c).2.toNat =
      pairNat z.1 + z.2.toNat * z.2.toNat + c.toNat := by
  have hlow := mac32_eq z.1.1 z.2 z.2 c
  have hhigh := adc32_eq z.1.2 (mac32 z.1.1 z.2 z.2 c).2 0
  rw [show UInt32.toNat 0 = 0 from rfl] at hhigh
  unfold squareStep pairNat
  simp only
  linear_combination hlow + 2 ^ 32 * hhigh

theorem square_chain {ps : List (UInt32 × UInt32)} {a : Fe} (h : ps.length = a.length) :
    value (2 ^ 64) pairNat (carry squareStep (ps.zip a) 0).1 +
        (2 ^ 64) ^ ps.length * (carry squareStep (ps.zip a) 0).2.toNat =
      value (2 ^ 64) pairNat ps + squares a := by
  have hstep : ∀ z ∈ ps.zip a, Keeps (2 ^ 64) (fun z => pairNat z.1 + z.2.toNat * z.2.toNat)
      pairNat UInt32.toNat (fun _ => True) squareStep z :=
    fun z _ c _ => ⟨squareStep_eq z c, trivial⟩
  have hv := (value_carry hstep (c := 0) trivial).1
  rw [value_zip_add _ pairNat (fun x => x.toNat * x.toNat) h, List.length_zip, ← h, min_self,
    show UInt32.toNat 0 = 0 from rfl, add_zero] at hv
  exact hv

/-! ### The 512-bit square -/

variable {a : Fe}

/-- **The wide square is the square.** -/
theorem wideSquare_spec (ha : Reduced a) :
    (wideSquare a).length = 17 ∧ toNat (wideSquare a) = toNat a * toNat a := by
  have hrows := rows_spec ha.length
  unfold wideSquare
  simp only
  generalize (List.range 7).foldl (crossRow a) (List.replicate 17 0) = t at hrows ⊢
  have htl := hrows.length
  -- the top two words are still zero
  have hcross : toNat t = cross a := by
    have hnil : cross (a.drop 7) = 0 := by
      rw [cross_drop (by rw [ha.length]; omega), List.drop_eq_nil_of_le (by rw [ha.length])]
      rfl
    have := hrows.value
    rwa [hnil, mul_zero, add_zero] at this
  have htop : t.getD 16 0 = 0 := by
    have hget := congrArg (fun l => l.getD 1 0) hrows.above
    simpa [List.getD_eq_getElem?_getD, List.getElem?_drop] using hget
  have htake : toNat (t.take 16) = cross a := by
    have := toNat_take_add (k := 16) htl
    rw [htop] at this
    simpa [hcross] using this
  have htkl : (t.take 16).length = 16 := List.length_take_of_le (by omega)
  -- the doubled words do not overflow, for the square fits
  have hdouble := double_chain (t.take 16)
  rw [htkl, htake] at hdouble
  have hdl : (carry doubleStep (t.take 16) 0).1.length = 2 * 8 := by rw [length_carry, htkl]
  have hsq := two_cross_add_squares a
  have hp := p_lt
  have hfits : toNat a * toNat a < 2 ^ 256 * 2 ^ 256 :=
    Nat.mul_lt_mul'' (ha.lt.trans hp) (ha.lt.trans hp)
  have hpow : ((2 : ℕ) ^ 32) ^ 16 = 2 ^ 256 * 2 ^ 256 := by norm_num
  have hcarry : (carry doubleStep (t.take 16) 0).2.toNat = 0 := by
    rw [hpow] at hdouble
    omega
  rw [hcarry, mul_zero, add_zero] at hdouble
  generalize carry doubleStep (t.take 16) 0 = d at hdouble hdl ⊢
  have hpl : (pairs d.1).length = a.length := by rw [length_pairs hdl, ha.length]
  have hs := square_chain hpl
  rw [value_pairs hdl, hdouble, hpl, ha.length] at hs
  have hsl : (carry squareStep ((pairs d.1).zip a) 0).1.length = 8 := by
    rw [length_carry, List.length_zip, hpl, min_self, ha.length]
  refine ⟨by rw [List.length_append, length_flatMap, hsl]; rfl, ?_⟩
  rw [toNat_append, length_flatMap, hsl, toNat_flatMap, toNat_cons, show toNat [] = 0 from rfl]
  linear_combination hs + hsq

/-! ### The reduction in place -/

theorem ripple_chain (xs : List UInt32) (c : UInt32) :
    toNat (carry rippleStep xs c).1 + (2 ^ 32) ^ xs.length * (carry rippleStep xs c).2.toNat =
      toNat xs + c.toNat := by
  have hstep : ∀ x ∈ xs, Keeps (2 ^ 32) UInt32.toNat UInt32.toNat UInt32.toNat (fun _ => True)
      rippleStep x := by
    intro x _ c _
    have h := adc32_eq x c 0
    rw [show UInt32.toNat 0 = 0 from rfl, add_zero] at h
    exact ⟨h, trivial⟩
  exact (value_carry hstep (c := c) trivial).1

/-- Before round `i` the words from `i` on hold the square after `i` rounds. -/
def Reducing (a : Fe) (i : ℕ) (t : List UInt32) : Prop :=
  t.length = 17 ∧ Rounds (2 ^ 32) p i 0 (toNat a * toNat a) (toNat (t.drop i))

theorem toNat_drop_split {t : List UInt32} {i : ℕ} (ht : i + 8 ≤ t.length) :
    (t.getD i 0).toNat +
        2 ^ 32 * (toNat (window t (i + 1) 7) + (2 ^ 32) ^ 7 * toNat (t.drop (i + 8))) =
      toNat (t.drop i) := by
  have hhead := toNat_getD_add (t := t.drop i) (by
    rw [ne_eq, List.drop_eq_nil_iff]
    omega)
  have hseven := value_take_add_drop (2 ^ 32) UInt32.toNat (t.drop (i + 1)) (i := 7) (by
    rw [List.length_drop]
    omega)
  rw [List.drop_drop, List.getD_eq_getElem?_getD, List.getElem?_drop,
    ← List.getD_eq_getElem?_getD, add_zero] at hhead
  rw [List.drop_drop] at hseven
  change toNat (window t (i + 1) 7) + _ * toNat _ = toNat (t.drop (i + 1)) at hseven
  rw [← hhead, ← hseven]

theorem fits_above {i m h : ℕ} (hi : i < 8) (ha : Reduced a) (hm : m < 2 ^ 32)
    (h0 : Rounds (2 ^ 32) p i 0 (toNat a * toNat a) h) : h + m * p < (2 ^ 32) ^ (17 - i) := by
  obtain ⟨ms, hms, e⟩ := h0
  have hp := p_lt
  have hsq : toNat a * toNat a < 2 ^ 256 * 2 ^ 256 :=
    Nat.mul_lt_mul'' (ha.lt.trans hp) (ha.lt.trans hp)
  have hB : (2 : ℕ) ^ 32 ^ 1 * (2 ^ 32) ^ i ≤ (2 ^ 32) ^ 8 := by
    rw [show (2 : ℕ) ^ 32 ^ 1 = 2 ^ 32 by norm_num, ← pow_succ']
    exact Nat.pow_le_pow_right (by norm_num) (by omega)
  have hpow : (2 : ℕ) ^ 256 = (2 ^ 32) ^ 8 := by norm_num
  have hcoef : ms + (2 ^ 32) ^ i * m < 2 ^ 256 := by
    have : (2 ^ 32) ^ i * (m + 1) ≤ (2 ^ 32) ^ i * 2 ^ 32 := Nat.mul_le_mul_left _ hm
    rw [hpow]
    calc ms + (2 ^ 32) ^ i * m < (2 ^ 32) ^ i * (m + 1) := by rw [mul_add, mul_one]; omega
      _ ≤ (2 ^ 32) ^ i * 2 ^ 32 := this
      _ ≤ (2 ^ 32) ^ 8 := by rw [mul_comm]; simpa using hB
  have hmul : (ms + (2 ^ 32) ^ i * m) * p < 2 ^ 256 * 2 ^ 256 := Nat.mul_lt_mul'' hcoef hp
  refine Nat.lt_of_mul_lt_mul_left (a := (2 ^ 32) ^ i) ?_
  calc (2 ^ 32) ^ i * (h + m * p) = toNat a * toNat a + (ms + (2 ^ 32) ^ i * m) * p := by
        rw [mul_add, e]
        ring
    _ < 2 ^ 256 * 2 ^ 256 + 2 ^ 256 * 2 ^ 256 := Nat.add_lt_add hsq hmul
    _ ≤ (2 ^ 32) ^ 17 := by norm_num
    _ = (2 ^ 32) ^ i * (2 ^ 32) ^ (17 - i) := by rw [← pow_add]; congr 1; omega

theorem squareRound_words {t : List UInt32} (ht : t.length = 17) {i : ℕ} (hi : i < 8) :
    (squareRound t i).length = 17 ∧
      ∃ c, 2 ^ 32 * (toNat ((squareRound t i).drop (i + 1)) + (2 ^ 32) ^ (16 - i) * c) =
        toNat (t.drop i) + (t.getD i 0).toNat * p := by
  have hm := (t.getD i 0).toNat_lt
  have hsplit := toNat_drop_split (t := t) (i := i) (by omega)
  have hwl : (window t (i + 1) 7).length = 7 := length_window (by omega)
  have hlen : (window t (i + 1) 7).length = (mP (t.getD i 0)).length := hwl.trans rfl
  obtain ⟨hv, hcl⟩ := wide_chain hlen (mP_le _)
    (c := (t.getD i 0).toUInt64) (by rw [toNat_wide]; exact hm)
  have hmP := value_mP (t.getD i 0)
  have hol : (carry wideStep ((window t (i + 1) 7).zip (mP (t.getD i 0)))
      (t.getD i 0).toUInt64).1.length = 7 := by
    rw [length_carry, List.length_zip, hwl]
    rfl
  rw [hwl, toNat_wide] at hv
  unfold squareRound
  simp only
  generalize carry wideStep ((window t (i + 1) 7).zip (mP (t.getD i 0)))
    (t.getD i 0).toUInt64 = r at hv hcl hol ⊢
  have hr := ripple_chain (t.drop (i + 8)) r.2.toUInt32
  have hrl : (carry rippleStep (t.drop (i + 8)) r.2.toUInt32).1.length = 9 - i := by
    rw [length_carry, List.length_drop]
    omega
  rw [List.length_drop, ht, toNat_low, Nat.mod_eq_of_lt hcl,
    show 17 - (i + 8) = 9 - i by omega] at hr
  generalize carry rippleStep (t.drop (i + 8)) r.2.toUInt32 = s at hr hrl ⊢
  have htake : (t.take (i + 1)).length = i + 1 := List.length_take_of_le (by omega)
  refine ⟨by rw [List.length_append, List.length_append, htake, hol, hrl]; omega, s.2.toNat, ?_⟩
  rw [List.drop_append_of_le_length (by omega), List.drop_eq_nil_of_le (by omega),
    List.nil_append, toNat_append, hol, show 16 - i = 7 + (9 - i) by omega, pow_add]
  generalize (2 ^ 32) ^ (9 - i) = e at hr ⊢
  linear_combination 2 ^ 32 * hv + 2 ^ 32 * (2 ^ 32) ^ 7 * hr + hmP + hsplit

theorem Reducing.step (ha : Reduced a) {i : ℕ} (hi : i < 8) {t : List UInt32}
    (h : Reducing a i t) : Reducing a (i + 1) (squareRound t i) := by
  obtain ⟨hlen, hrounds⟩ := h
  have hm := (t.getD i 0).toNat_lt
  have hfits := fits_above hi ha hm hrounds
  obtain ⟨hlen', c, hnum⟩ := squareRound_words hlen hi
  -- so nothing is carried out of the top
  have htop : c = 0 := by
    by_contra hne
    have hone : (2 ^ 32) ^ (16 - i) * 1 ≤ (2 ^ 32) ^ (16 - i) * c :=
      Nat.mul_le_mul_left _ (Nat.one_le_iff_ne_zero.mpr hne)
    rw [show 17 - i = 16 - i + 1 by omega, pow_succ', ← hnum] at hfits
    have := Nat.lt_of_mul_lt_mul_left hfits
    omega
  rw [htop, mul_zero, add_zero] at hnum
  have hround : Round (2 ^ 32) p 0 (toNat (t.drop i)) (toNat ((squareRound t i).drop (i + 1))) :=
    ⟨_, hm, by rw [hnum, add_zero]⟩
  have hsnoc := hrounds.snoc hround
  rw [mul_zero, add_zero] at hsnoc
  exact ⟨hlen', hsnoc⟩

/-- **The square.** The limbs with `R` are the square. -/
theorem feSquareRust_spec (ha : Reduced a) :
    Reduced (feSquareRust a) ∧
      2 ^ 256 * toNat (feSquareRust a) ≡ toNat a * toNat a [MOD p] := by
  obtain ⟨hlen, hval⟩ := wideSquare_spec ha
  have hzero : Reducing a 0 (wideSquare a) := by
    refine ⟨hlen, ?_⟩
    rw [List.drop_zero, hval]
    exact Rounds.zero _
  have hend : Reducing a 8 ((List.range 8).foldl squareRound (wideSquare a)) :=
    range_loop (fun _ hi _ h => Reducing.step ha hi h) hzero
  unfold feSquareRust
  generalize (List.range 8).foldl squareRound (wideSquare a) = t at hend ⊢
  obtain ⟨htl, hrounds⟩ := hend
  have hdl : (t.drop 8).length = 9 := by rw [List.length_drop, htl]
  have hpow : ((2 : ℕ) ^ 32) ^ 8 = 2 ^ 256 := by norm_num
  have hlt : toNat (t.drop 8) < 2 * p := by
    refine hrounds.lt_two_mul ?_
    rw [add_zero, hpow]
    exact Nat.mul_lt_mul'' ha.lt (ha.lt.trans p_lt)
  have hmod := hrounds.modEq
  rw [hpow, add_zero] at hmod
  refine ⟨Reduced.subP hdl hlt, ?_⟩
  rw [(subP_spec hdl hlt).2]
  exact (Nat.ModEq.mul_left _ (Nat.mod_modEq _ _)).trans hmod

end EspMid.P256.Square
