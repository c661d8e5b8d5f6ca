import EspMid.P256.DivstepWords

/-! # The limbs of the inversion

What the loops of the inversion do to the numbers their limbs hold. Limbs are `Signed` for a number:
the low eight in `[0, 2 ^ 30)`, the last with the sign. A row of the matrix, with a multiple of the
modulus in `update_de`, is divided by `2 ^ 30` without loss (`fgRow_spec`, `deRow_spec`), no sum in
64 bits overflowing on the way, and `normalize` gives the residue (`normalize_spec`). -/

namespace EspMid.P256.DivstepLimbs

open EspMid.Lib EspMid.Lib.Limbs EspMid.Lib.Words EspMid.Lib.SignedWords
open EspMid.Model.Field32 EspMid.Model.SafeGcd

/-- Limbs that hold a number. -/
structure Signed (a : S30) (x : ℤ) : Prop where
  length : a.length = 9
  low : ∀ y ∈ a.take 8, 0 ≤ y.toInt ∧ y.toInt < 2 ^ 30
  eq : toInt a = x

/-! ### The first and the last limb -/

theorem toInt_nonneg {xs : List Int32} (h : ∀ y ∈ xs, 0 ≤ y.toInt ∧ y.toInt < 2 ^ 30) :
    0 ≤ toInt xs ∧ toInt xs < (2 ^ 30) ^ xs.length := by
  induction xs with
  | nil => simp [SignedWords.toInt]
  | cons x xs ih =>
    obtain ⟨hx, hx'⟩ := h x List.mem_cons_self
    obtain ⟨hxs, hxs'⟩ := ih fun y hy => h y (List.mem_cons_of_mem x hy)
    have hle : 2 ^ 30 * (toInt xs + 1) ≤ 2 ^ 30 * (2 ^ 30) ^ xs.length :=
      mul_le_mul_of_nonneg_left hxs' (by norm_num)
    rw [toInt_cons, List.length_cons, pow_succ' ((2 : ℤ) ^ 30)]
    omega

theorem toInt_first {a : S30} (h : a.length = 9) :
    (a.getD 0 0).toInt + 2 ^ 30 * toInt (a.drop 1) = toInt a := by
  obtain ⟨x, xs, rfl⟩ := List.exists_cons_of_ne_nil (List.ne_nil_of_length_eq_add_one h)
  rfl

theorem toInt_last {a : S30} (h : a.length = 9) :
    toInt (a.take 8) + 2 ^ 240 * (a.getD 8 0).toInt = toInt a := by
  have hlast : a.drop 8 = [a.getD 8 0] := by
    rw [List.drop_eq_getElem_cons (by omega), List.drop_eq_nil_of_le (by omega),
      List.getD_eq_getElem _ _ (by omega)]
  have hv := value_take_add_drop (2 ^ 30) Int32.toInt a (i := 8) (by omega)
  rw [hlast] at hv
  rw [show (2 : ℤ) ^ 240 = (2 ^ 30) ^ 8 by norm_num]
  simpa [SignedWords.toInt] using hv

variable {a : S30} {x : ℤ}

theorem Signed.top (h : Signed a x) : (a.getD 8 0).toInt = x / 2 ^ 240 := by
  have hlast := toInt_last h.length
  have hlow := toInt_nonneg h.low
  rw [List.length_take_of_le (by rw [h.length]; norm_num), show ((2 : ℤ) ^ 30) ^ 8 = 2 ^ 240 by norm_num]
    at hlow
  rw [h.eq] at hlast
  omega

theorem Signed.top_neg (h : Signed a x) : (a.getD 8 0).toInt < 0 ↔ x < 0 := by
  rw [h.top]
  omega

theorem Signed.first (h : Signed a x) : (a.getD 0 0).toInt ≡ x [ZMOD 2 ^ 30] := by
  have hfirst := toInt_first h.length
  rw [h.eq] at hfirst
  exact (Int.modEq_iff_dvd.mpr ⟨toInt (a.drop 1), by linarith⟩)

theorem Signed.first_word (h : Signed a x) :
    int (a.getD 0 0).toUInt32 ≡ x [ZMOD 2 ^ 30] :=
  ((toUInt32_modEq _).of_dvd (by norm_num)).trans h.first

theorem Signed.of_digits {xs : List Int32} {y : Int32} (hlen : xs.length = 8)
    (hlow : ∀ z ∈ xs, 0 ≤ z.toInt ∧ z.toInt < 2 ^ 30)
    (h : toInt xs + 2 ^ 240 * y.toInt = x) : Signed (xs ++ [y]) x := by
  refine ⟨by rw [List.length_append, hlen]; rfl, ?_, ?_⟩
  · rw [List.take_append_of_le_length (by omega), List.take_of_length_le (by omega)]
    exact hlow
  · rw [toInt_append, hlen, toInt_cons, show toInt [] = 0 from rfl, ← h,
      show (2 : ℤ) ^ 240 = (2 ^ 30) ^ 8 by norm_num]
    ring

/-! ### A row -/

/-- A step of a row: the low 30 bits out, the rest carried. -/
def rowStep {α : Type*} (item : α → Int64) (z : α) (c : Int64) : Int32 × Int64 :=
  ((c + item z).toInt32 &&& M30, (c + item z) >>> 30)

/-- The limbs of a row. -/
def rowOut {α : Type*} (item : α → Int64) (xs : List α) (c : Int64) : S30 :=
  (carry (rowStep item) xs c).1 ++ [(carry (rowStep item) xs c).2.toInt32]

/-- A step of two rows. -/
def bothStep {α : Type*} (item item' : α → Int64) (z : α) (c : Int64 × Int64) :
    (Int32 × Int32) × (Int64 × Int64) :=
  (((rowStep item z c.1).1, (rowStep item' z c.2).1),
    ((rowStep item z c.1).2, (rowStep item' z c.2).2))

/-- Two rows in one loop. -/
theorem bothStep_out {α : Type*} (item item' : α → Int64) (xs : List α) (c c' : Int64) :
    (carry (bothStep item item') xs (c, c')).1.map Prod.fst ++
          [(carry (bothStep item item') xs (c, c')).2.1.toInt32] = rowOut item xs c ∧
      (carry (bothStep item item') xs (c, c')).1.map Prod.snd ++
          [(carry (bothStep item item') xs (c, c')).2.2.toInt32] = rowOut item' xs c' := by
  have hboth : carry (bothStep item item') xs (c, c') = _ :=
    carry_both (rowStep item) (rowStep item') xs c c'
  have hlen : (carry (rowStep item) xs c).1.length = (carry (rowStep item') xs c').1.length := by
    rw [length_carry, length_carry]
  rw [hboth, List.map_fst_zip hlen.le, List.map_snd_zip hlen.ge]
  exact ⟨rfl, rfl⟩

theorem digits_low {α : Type*} {item : α → Int64} (xs : List α) (c : Int64) :
    ∀ z ∈ (carry (rowStep item) xs c).1, 0 ≤ z.toInt ∧ z.toInt < 2 ^ 30 := by
  induction xs generalizing c with
  | nil => simp
  | cons x xs ih =>
    rw [carry_cons]
    refine List.forall_mem_cons.mpr ⟨?_, ih _⟩
    rw [rowStep, show M30 = mask30 from rfl, toInt_low30]
    omega

theorem carried_le {c item : Int64} (hc : |c.toInt| ≤ 2 ^ 33) (hitem : |item.toInt| ≤ 3 * 2 ^ 61) :
    |((c + item) >>> 30).toInt| ≤ 2 ^ 33 := by
  rw [abs_le] at hc hitem
  rw [shift64, abs_le, add64] <;> omega

/-- **A row keeps the number**, for items with room to carry. -/
theorem rowOut_spec {α : Type*} {item : α → Int64} {xs : List α} (hlen : xs.length = 8)
    (hitem : ∀ z ∈ xs, |(item z).toInt| ≤ 3 * 2 ^ 61) {c : Int64} (hc : |c.toInt| ≤ 2 ^ 33) {x : ℤ}
    (hx : value (2 ^ 30) (fun z => (item z).toInt) xs + c.toInt = x) (hfits : |x| < 2 ^ 270) :
    Signed (rowOut item xs c) x := by
  have hkeeps : ∀ z ∈ xs, Keeps (2 ^ 30) (fun z => (item z).toInt) Int32.toInt Int64.toInt
      (fun c => |c.toInt| ≤ 2 ^ 33) (rowStep item) z := by
    intro z hz c hc
    have hz' := hitem z hz
    refine ⟨?_, carried_le hc hz'⟩
    rw [abs_le] at hz' hc
    have hsum : (c + item z).toInt = c.toInt + (item z).toInt := by
      rw [add64] <;> omega
    simp only [rowStep]
    rw [show M30 = mask30 from rfl, toInt_low30, shift64, hsum]
    omega
  obtain ⟨hv, -⟩ := value_carry hkeeps hc
  have hlow : ∀ z ∈ (carry (rowStep item) xs c).1, 0 ≤ z.toInt ∧ z.toInt < 2 ^ 30 :=
    digits_low xs c
  have hdig := toInt_nonneg hlow
  rw [hlen, show ((2 : ℤ) ^ 30) ^ 8 = 2 ^ 240 by norm_num, hx] at hv
  rw [length_carry, hlen, show ((2 : ℤ) ^ 30) ^ 8 = 2 ^ 240 by norm_num] at hdig
  rw [abs_lt] at hfits
  change toInt (carry (rowStep item) xs c).1 + _ = _ at hv
  refine Signed.of_digits (by rw [length_carry, hlen]) hlow ?_
  rw [narrow] <;> omega

/-! ### A row of the matrix -/

section Rows

variable {u v : Int32} (h : |u.toInt| + |v.toInt| ≤ 2 ^ 30)

include h

theorem row_spec (y z : Int32) :
    (row u v y z).toInt = u.toInt * y.toInt + v.toInt * z.toInt ∧
      |u.toInt * y.toInt + v.toInt * z.toInt| ≤ 2 ^ 61 := by
  have hy : |y.toInt| ≤ 2 ^ 31 := abs_le.mpr ⟨(bound32 y).1, (bound32 y).2.le⟩
  have hz : |z.toInt| ≤ 2 ^ 31 := abs_le.mpr ⟨(bound32 z).1, (bound32 z).2.le⟩
  have hle : |u.toInt * y.toInt + v.toInt * z.toInt| ≤ 2 ^ 61 := by
    calc |u.toInt * y.toInt + v.toInt * z.toInt| ≤ |u.toInt| * |y.toInt| + |v.toInt| * |z.toInt| := by
          rw [← abs_mul, ← abs_mul]
          exact abs_add_le _ _
      _ ≤ |u.toInt| * 2 ^ 31 + |v.toInt| * 2 ^ 31 :=
          add_le_add (mul_le_mul_of_nonneg_left hy (abs_nonneg _))
            (mul_le_mul_of_nonneg_left hz (abs_nonneg _))
      _ ≤ 2 ^ 61 := by omega
  refine ⟨?_, hle⟩
  rw [abs_le] at hle
  rw [row, add64] <;> rw [mul64, mul64] <;> omega

theorem value_row {ys zs : List Int32} (hlen : ys.length = zs.length) :
    value (2 ^ 30) (fun z => (row u v z.1 z.2).toInt) (ys.zip zs) =
      u.toInt * toInt ys + v.toInt * toInt zs := by
  have hcongr := value_congr (2 ^ 30) fun z (_ : z ∈ ys.zip zs) => (row_spec h z.1 z.2).1
  rw [hcongr, value_zip_add (2 ^ 30) (fun y : Int32 => u.toInt * y.toInt)
    (fun z : Int32 => v.toInt * z.toInt) hlen]
  have hmul (k : ℤ) (xs : List Int32) :
      value (2 ^ 30) (fun y => k * y.toInt) xs = k * toInt xs := by
    rw [mul_comm k, SignedWords.toInt, ← value_mul]
    exact value_congr _ fun _ _ => mul_comm _ _
  rw [hmul, hmul]

/-- **A row of `update_fg`** is divided by `2 ^ 30`. -/
theorem fgRow_spec {f g : S30} {x y w : ℤ} (hf : Signed f x) (hg : Signed g y)
    (hw : 2 ^ 30 * w = u.toInt * x + v.toInt * y) (hfits : |w| < 2 ^ 270) :
    Signed (rowOut (fun z => row u v z.1 z.2) ((f.drop 1).zip (g.drop 1))
      (row u v (f.getD 0 0) (g.getD 0 0) >>> 30)) w := by
  have hflen : (f.drop 1).length = 8 := by rw [List.length_drop, hf.length]
  have hglen : (g.drop 1).length = 8 := by rw [List.length_drop, hg.length]
  obtain ⟨hrow, hle⟩ := row_spec h (f.getD 0 0) (g.getD 0 0)
  have hf0 := toInt_first hf.length
  have hg0 := toInt_first hg.length
  rw [hf.eq] at hf0
  rw [hg.eq] at hg0
  have hsplit : 2 ^ 30 * w = u.toInt * (f.getD 0 0).toInt + v.toInt * (g.getD 0 0).toInt +
      2 ^ 30 * (u.toInt * toInt (f.drop 1) + v.toInt * toInt (g.drop 1)) := by
    rw [hw, ← hf0, ← hg0]
    ring
  refine rowOut_spec ?_ ?_ ?_ ?_ hfits
  · rw [List.length_zip, hflen, hglen, min_self]
  · intro z _
    obtain ⟨hz, hz'⟩ := row_spec h z.1 z.2
    rw [hz]
    omega
  · rw [shift64, hrow, abs_le]
    rw [abs_le] at hle
    omega
  · rw [value_row h (hflen.trans hglen.symm), shift64, hrow]
    omega

end Rows

/-- **`update_fg`** divides both rows. -/
theorem updateFg_spec {t : Matrix} (hu : |t.u.toInt| + |t.v.toInt| ≤ 2 ^ 30)
    (hq : |t.q.toInt| + |t.r.toInt| ≤ 2 ^ 30) {f g : S30} {x y x' y' : ℤ} (hf : Signed f x)
    (hg : Signed g y) (hx : 2 ^ 30 * x' = t.u.toInt * x + t.v.toInt * y)
    (hy : 2 ^ 30 * y' = t.q.toInt * x + t.r.toInt * y) (hx' : |x'| < 2 ^ 270)
    (hy' : |y'| < 2 ^ 270) :
    Signed (updateFg f g t).1 x' ∧ Signed (updateFg f g t).2 y' := by
  have hstep : fgStep t = bothStep (fun z => row t.u t.v z.1 z.2) fun z => row t.q t.r z.1 z.2 := rfl
  unfold updateFg
  simp only
  rw [hstep, (bothStep_out _ _ _ _ _).1, (bothStep_out _ _ _ _ _).2]
  exact ⟨fgRow_spec hu hf hg hx hx', fgRow_spec hq hf hg hy hy'⟩

end EspMid.P256.DivstepLimbs
