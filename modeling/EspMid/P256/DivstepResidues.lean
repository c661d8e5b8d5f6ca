import EspMid.P256.DivstepLimbs

/-! # The residues of the inversion

`update_de` keeps both numbers above minus twice the modulus and below it, and divides the rows by
`2 ^ 30` modulo the modulus (`updateDe_spec`): a multiple of the modulus clears the low 30 bits, and
the modulus is added to a negative number first. `normalize` brings the result, negated or not, to
the least residue (`normalize_spec`). -/

namespace EspMid.P256.DivstepResidues

open EspMid.Lib EspMid.Lib.Limbs EspMid.Lib.Words EspMid.Lib.SignedWords
open EspMid.Model.Field32 EspMid.Model.SafeGcd EspMid.P256.DivstepLimbs

/-- A modulus with its inverse modulo `2 ^ 30`. -/
structure Modulus (m : ModInfo) (n : ℤ) : Prop where
  signed : Signed m.modulus n
  pos : 0 < n
  lt : n < 2 ^ 256
  inv : int m.inv30 * n ≡ 1 [ZMOD 2 ^ 30]

variable {m : ModInfo} {n : ℤ}

/-! ### The multiple of the modulus -/

theorem multiple_spec {md : Int32} (hmd : |md.toInt| ≤ 2 ^ 30) (c : Int64) :
    ∃ k : ℤ, 0 ≤ k ∧ k < 2 ^ 30 ∧ (multiple m md c).toInt = md.toInt - k ∧
      k ≡ int m.inv30 * c.toInt + md.toInt [ZMOD 2 ^ 30] := by
  have hlow := and_mask30 (m.inv30 * c.toInt32.toUInt32 + md.toUInt32)
  have hc : int c.toInt32.toUInt32 ≡ c.toInt [ZMOD 2 ^ 32] := by
    refine (toUInt32_modEq _).trans ?_
    rw [Int64.toInt_toInt32]
    exact Int.bmod_emod
  have hmul : int (m.inv30 * c.toInt32.toUInt32) ≡ int m.inv30 * c.toInt [ZMOD 2 ^ 32] := by
    refine Int.ModEq.trans ?_ (hc.mul_left _)
    unfold int
    rw [UInt32.toNat_mul]
    push_cast
    exact Int.mod_modEq _ _
  have hsum : int (m.inv30 * c.toInt32.toUInt32 + md.toUInt32) ≡
      int m.inv30 * c.toInt + md.toInt [ZMOD 2 ^ 32] :=
    (DivstepWords.int_add _ _).trans (hmul.add (toUInt32_modEq md))
  unfold multiple
  generalize m.inv30 * c.toInt32.toUInt32 + md.toUInt32 = w at hlow hsum ⊢
  have hk : ((w &&& M30.toUInt32).toInt32).toInt = (w.toNat % 2 ^ 30 : ℕ) := by
    rw [toInt_toInt32] <;> rw [show M30 = mask30 from rfl, hlow]
    omega
  rw [abs_le] at hmd
  refine ⟨(w.toNat % 2 ^ 30 : ℕ), by omega, by omega, ?_, ?_⟩
  · rw [sub32] <;> rw [hk]
    · omega
    · omega
  · push_cast
    exact (Int.mod_modEq _ _).trans (hsum.of_dvd (by norm_num))

/-- What the multiple does: the modulus times it clears the low bits. -/
theorem multiple_clears (hm : Modulus m n) {md : Int32} (hmd : |md.toInt| ≤ 2 ^ 30) (c : Int64) :
    ∃ k : ℤ, 0 ≤ k ∧ k < 2 ^ 30 ∧ (multiple m md c).toInt = md.toInt - k ∧
      c.toInt + n * (md.toInt - k) ≡ 0 [ZMOD 2 ^ 30] := by
  obtain ⟨k, hk, hk', hval, hmod⟩ := multiple_spec (m := m) hmd c
  refine ⟨k, hk, hk', hval, ?_⟩
  have hinv := hm.inv
  calc c.toInt + n * (md.toInt - k)
      ≡ c.toInt + n * (md.toInt - (int m.inv30 * c.toInt + md.toInt)) [ZMOD 2 ^ 30] :=
        ((hmod.neg.add_left _).mul_left n).add_left _
    _ = c.toInt * (1 - int m.inv30 * n) := by ring
    _ ≡ c.toInt * (1 - 1) [ZMOD 2 ^ 30] := (hinv.neg.add_left 1).mul_left _
    _ = 0 := by ring

/-! ### A row with its multiple -/

theorem shifted_abs {x : ℤ} (hlo : -2 * n < x) (hhi : x < n) :
    |x + if x < 0 then n else 0| ≤ n - 1 := by
  rw [abs_le]
  split <;> omega

theorem signed_choice {d : S30} {x : ℤ} (hd : Signed d x) (u : Int32) :
    (u &&& (d.getD 8 0 >>> 31)).toInt = if x < 0 then u.toInt else 0 := by
  rw [toInt_and_sign]
  simp only [hd.top_neg]

theorem start_spec {u v : Int32} (h : |u.toInt| + |v.toInt| ≤ 2 ^ 30) {d e : S30} {x y : ℤ}
    (hd : Signed d x) (he : Signed e y) :
    ((u &&& (d.getD 8 0 >>> 31)) + (v &&& (e.getD 8 0 >>> 31))).toInt =
        (if x < 0 then u.toInt else 0) + (if y < 0 then v.toInt else 0) ∧
      |(if x < 0 then u.toInt else 0) + (if y < 0 then v.toInt else 0)| ≤ 2 ^ 30 := by
  have hu := signed_choice hd u
  have hv := signed_choice he v
  have hu0 := abs_le.mp (le_refl |u.toInt|)
  have hv0 := abs_le.mp (le_refl |v.toInt|)
  have hle : |(if x < 0 then u.toInt else 0) + (if y < 0 then v.toInt else 0)| ≤ 2 ^ 30 := by
    rw [abs_le]
    split <;> split <;> omega
  refine ⟨?_, hle⟩
  rw [abs_le] at hle
  rw [add32] <;> rw [hu, hv] <;> omega

/-- A limb of a row with its multiple. -/
def deItem (u v md : Int32) (z : (Int32 × Int32) × Int32) : Int64 :=
  row u v z.1.1 z.1.2 + z.2.toInt64 * md.toInt64

theorem deItem_spec {u v : Int32} (h : |u.toInt| + |v.toInt| ≤ 2 ^ 30) (md : Int32)
    (z : (Int32 × Int32) × Int32) :
    (deItem u v md z).toInt = (row u v z.1.1 z.1.2).toInt + z.2.toInt * md.toInt ∧
      |(deItem u v md z).toInt| ≤ 3 * 2 ^ 61 := by
  obtain ⟨hrow, hle⟩ := row_spec h z.1.1 z.1.2
  have hz : |z.2.toInt| ≤ 2 ^ 31 := abs_le.mpr ⟨(bound32 _).1, (bound32 _).2.le⟩
  have hmd : |md.toInt| ≤ 2 ^ 31 := abs_le.mpr ⟨(bound32 md).1, (bound32 md).2.le⟩
  have hmul : |z.2.toInt * md.toInt| ≤ 2 ^ 31 * 2 ^ 31 := by
    rw [abs_mul]
    exact mul_le_mul hz hmd (abs_nonneg _) (by norm_num)
  rw [← hrow, abs_le] at hle
  rw [abs_le] at hmul
  have hval : (deItem u v md z).toInt = (row u v z.1.1 z.1.2).toInt + z.2.toInt * md.toInt := by
    rw [deItem, add64] <;> rw [mul64] <;> omega
  refine ⟨hval, ?_⟩
  rw [hval, abs_le]
  omega

theorem value_deItem {u v : Int32} (h : |u.toInt| + |v.toInt| ≤ 2 ^ 30) (md : Int32)
    {ys zs ws : List Int32} (hlen : ys.length = zs.length) (hlen' : ys.length = ws.length) :
    value (2 ^ 30) (fun z => (deItem u v md z).toInt) ((ys.zip zs).zip ws) =
      u.toInt * toInt ys + v.toInt * toInt zs + toInt ws * md.toInt := by
  have hcongr := value_congr (2 ^ 30) fun z (_ : z ∈ (ys.zip zs).zip ws) => (deItem_spec h md z).1
  rw [hcongr, value_zip_add (2 ^ 30) (fun z : Int32 × Int32 => (row u v z.1 z.2).toInt)
    (fun w : Int32 => w.toInt * md.toInt) (by rw [List.length_zip, ← hlen, min_self, hlen']),
    value_row h hlen, value_mul]
  rfl

/-- **A row of `update_de`** stays in range, and is divided by `2 ^ 30` modulo the modulus. -/
theorem deRow_spec (hm : Modulus m n) {u v : Int32} (h : |u.toInt| + |v.toInt| ≤ 2 ^ 30)
    {d e : S30} {x y : ℤ} (hd : Signed d x) (he : Signed e y) (hx : -2 * n < x ∧ x < n)
    (hy : -2 * n < y ∧ y < n) {md : Int32}
    (hmd : md = multiple m ((u &&& (d.getD 8 0 >>> 31)) + (v &&& (e.getD 8 0 >>> 31)))
      (row u v (d.getD 0 0) (e.getD 0 0))) :
    ∃ w : ℤ, Signed (rowOut (deItem u v md) (((d.drop 1).zip (e.drop 1)).zip (m.modulus.drop 1))
        (deItem u v md ((d.getD 0 0, e.getD 0 0), m.modulus.getD 0 0) >>> 30)) w ∧
      (-2 * n < w ∧ w < n) ∧ 2 ^ 30 * w ≡ u.toInt * x + v.toInt * y [ZMOD n] := by
  obtain ⟨hstart, hstart'⟩ := start_spec h hd he
  obtain ⟨hrow, -⟩ := row_spec h (d.getD 0 0) (e.getD 0 0)
  obtain ⟨k, hk, hk', hval, hclear⟩ := multiple_clears hm (hstart ▸ hstart')
    (row u v (d.getD 0 0) (e.getD 0 0))
  rw [← hmd, hstart] at hval
  rw [hrow, hstart] at hclear
  have hdlen : (d.drop 1).length = 8 := by rw [List.length_drop, hd.length]
  have helen : (e.drop 1).length = 8 := by rw [List.length_drop, he.length]
  have hmlen : (m.modulus.drop 1).length = 8 := by rw [List.length_drop, hm.signed.length]
  have hd0 := toInt_first hd.length
  have he0 := toInt_first he.length
  have hm0 := toInt_first hm.signed.length
  rw [hd.eq] at hd0
  rw [he.eq] at he0
  rw [hm.signed.eq] at hm0
  -- the sum over `2 ^ 30`
  have hsum : (row u v (d.getD 0 0) (e.getD 0 0)).toInt +
      (m.modulus.getD 0 0).toInt * md.toInt + 2 ^ 30 * (u.toInt * toInt (d.drop 1) +
        v.toInt * toInt (e.drop 1) + toInt (m.modulus.drop 1) * md.toInt) =
      u.toInt * x + v.toInt * y + n * md.toInt := by
    rw [hrow, ← hd0, ← he0, ← hm0]
    ring
  have hdvd : (2 : ℤ) ^ 30 ∣
      (row u v (d.getD 0 0) (e.getD 0 0)).toInt + (m.modulus.getD 0 0).toInt * md.toInt := by
    refine Int.modEq_zero_iff_dvd.mp (Int.ModEq.trans ?_ hclear)
    rw [hrow, hval]
    exact (hm.signed.first.mul_right _).add_left _
  obtain ⟨hitem, hitem'⟩ := deItem_spec h md ((d.getD 0 0, e.getD 0 0), m.modulus.getD 0 0)
  simp only at hitem
  obtain ⟨w, hw⟩ : ∃ w, u.toInt * x + v.toInt * y + n * md.toInt = 2 ^ 30 * w := by
    rw [← hsum]
    exact (dvd_add hdvd (Dvd.intro _ rfl))
  -- the range
  have hrange : -2 * n < w ∧ w < n := by
    have hx' := shifted_abs hx.1 hx.2
    have hy' := shifted_abs hy.1 hy.2
    have hn := hm.pos
    have hcomb : 2 ^ 30 * w = u.toInt * (x + if x < 0 then n else 0) +
        v.toInt * (y + if y < 0 then n else 0) - n * k := by
      rw [← hw, hval]
      split <;> split <;> ring
    have habs : |u.toInt * (x + if x < 0 then n else 0) +
        v.toInt * (y + if y < 0 then n else 0)| ≤ 2 ^ 30 * (n - 1) := by
      calc |u.toInt * (x + if x < 0 then n else 0) + v.toInt * (y + if y < 0 then n else 0)|
          ≤ |u.toInt| * |x + if x < 0 then n else 0| +
              |v.toInt| * |y + if y < 0 then n else 0| := by
            rw [← abs_mul, ← abs_mul]
            exact abs_add_le _ _
        _ ≤ |u.toInt| * (n - 1) + |v.toInt| * (n - 1) :=
            add_le_add (mul_le_mul_of_nonneg_left hx' (abs_nonneg _))
              (mul_le_mul_of_nonneg_left hy' (abs_nonneg _))
        _ = (|u.toInt| + |v.toInt|) * (n - 1) := by ring
        _ ≤ 2 ^ 30 * (n - 1) := mul_le_mul_of_nonneg_right h (by omega)
    have hnk : n * k ≤ n * (2 ^ 30 - 1) := mul_le_mul_of_nonneg_left (by omega) hn.le
    have hnk' : 0 ≤ n * k := mul_nonneg hn.le hk
    rw [abs_le] at habs
    generalize u.toInt * (x + if x < 0 then n else 0) + v.toInt * (y + if y < 0 then n else 0) = s
      at hcomb habs
    constructor <;> omega
  refine ⟨w, ?_, hrange, ?_⟩
  · refine rowOut_spec ?_ (fun z _ => (deItem_spec h md z).2) ?_ ?_ ?_
    · rw [List.length_zip, List.length_zip, hdlen, helen, hmlen, min_self, min_self]
    · rw [shift64, abs_le]
      rw [abs_le] at hitem'
      omega
    · rw [value_deItem h md (hdlen.trans helen.symm) (hdlen.trans hmlen.symm), shift64, hitem]
      omega
    · have hlt := hm.lt
      rw [abs_lt]
      omega
  · rw [← hw]
    exact (Int.modEq_iff_dvd.mpr ⟨-md.toInt, by ring⟩)

/-- **`update_de`** keeps both numbers in range and divides the rows modulo the modulus. -/
theorem updateDe_spec (hm : Modulus m n) {t : Matrix} (hu : |t.u.toInt| + |t.v.toInt| ≤ 2 ^ 30)
    (hq : |t.q.toInt| + |t.r.toInt| ≤ 2 ^ 30) {d e : S30} {x y : ℤ} (hd : Signed d x)
    (he : Signed e y) (hx : -2 * n < x ∧ x < n) (hy : -2 * n < y ∧ y < n) :
    ∃ x' y' : ℤ, (Signed (updateDe d e t m).1 x' ∧ -2 * n < x' ∧ x' < n ∧
        2 ^ 30 * x' ≡ t.u.toInt * x + t.v.toInt * y [ZMOD n]) ∧
      (Signed (updateDe d e t m).2 y' ∧ -2 * n < y' ∧ y' < n ∧
        2 ^ 30 * y' ≡ t.q.toInt * x + t.r.toInt * y [ZMOD n]) := by
  obtain ⟨x', hx', hxr, hxm⟩ := deRow_spec hm hu hd he hx hy rfl
  obtain ⟨y', hy', hyr, hym⟩ := deRow_spec hm hq hd he hx hy rfl
  refine ⟨x', y', ⟨?_, hxr.1, hxr.2, hxm⟩, ?_, hyr.1, hyr.2, hym⟩
  all_goals
    have hstep (md me : Int32) : deStep t md me = bothStep (deItem t.u t.v md) (deItem t.q t.r me) := by
      funext z c
      unfold deStep bothStep rowStep deItem
      simp only [Int64.add_assoc]
    unfold updateDe
    simp only
    rw [hstep]
  · rw [(bothStep_out _ _ _ _ _).1]
    exact hx'
  · rw [(bothStep_out _ _ _ _ _).2]
    exact hy'

/-! ### The least residue -/

/-- Limbs with room for a carry. -/
structure Room (r : S30) (x : ℤ) : Prop where
  length : r.length = 9
  le : ∀ y ∈ r, |y.toInt| ≤ 2 ^ 31 - 2
  eq : toInt r = x

theorem digits_low (ys : List Int32) (c : Int32) :
    ∀ z ∈ (carry carryStep ys c).1, 0 ≤ z.toInt ∧ z.toInt < 2 ^ 30 := by
  induction ys generalizing c with
  | nil => simp
  | cons y ys ih =>
    rw [carry_cons]
    refine List.forall_mem_cons.mpr ⟨?_, ih _⟩
    rw [carryStep, show M30 = mask30 from rfl, toInt_and_mask30]
    omega

/-- **The carry** brings the low limbs into `[0, 2 ^ 30)`. -/
theorem Room.propagate {r : S30} {x : ℤ} (h : Room r x) : Signed (propagate r) x := by
  have hkeeps : ∀ y ∈ r.take 8, Keeps (2 ^ 30) Int32.toInt Int32.toInt Int32.toInt
      (fun c => -2 ≤ c.toInt ∧ c.toInt ≤ 1) carryStep y := by
    intro y hy c hc
    have hy' := abs_le.mp (h.le y (List.mem_of_mem_take hy))
    have hsum : (y + c).toInt = y.toInt + c.toInt := by
      rw [add32] <;> omega
    simp only [carryStep]
    rw [show M30 = mask30 from rfl, toInt_and_mask30, shift32, hsum]
    omega
  have htake : (r.take 8).length = 8 := List.length_take_of_le (by rw [h.length]; norm_num)
  have hmem : r.getD 8 0 ∈ r := by
    rw [List.getD_eq_getElem _ _ (by rw [h.length]; norm_num)]
    exact List.getElem_mem _
  have htop := abs_le.mp (h.le _ hmem)
  have hlast := toInt_last h.length
  obtain ⟨hv, hc⟩ := value_carry hkeeps (c := 0) ⟨by decide, by decide⟩
  rw [htake, show ((2 : ℤ) ^ 30) ^ 8 = 2 ^ 240 by norm_num] at hv
  change toInt (carry carryStep (r.take 8) 0).1 + _ = toInt (r.take 8) + 0 at hv
  rw [h.eq] at hlast
  unfold Model.SafeGcd.propagate
  simp only
  refine Signed.of_digits (by rw [length_carry, htake]) (digits_low _ _) ?_
  rw [add32] <;> omega

theorem small {a : S30} {x : ℤ} (h : Signed a x) (hx : |x| < 2 ^ 258) :
    ∀ y ∈ a, |y.toInt| ≤ 2 ^ 30 - 1 := by
  have htop := h.top
  have hlast : a.drop 8 = [a.getD 8 0] := by
    have hlen := h.length
    rw [List.drop_eq_getElem_cons (by omega), List.drop_eq_nil_of_le (by omega),
      List.getD_eq_getElem _ _ (by omega)]
  intro y hy
  rw [← List.take_append_drop 8 a, hlast, List.mem_append, List.mem_singleton] at hy
  obtain hy | rfl := hy
  · have := h.low y hy
    rw [abs_le]
    omega
  · rw [abs_lt] at hx
    rw [htop, abs_le]
    omega

theorem Room.of_add (hm : Modulus m n) {r : S30} {x : ℤ} (hr : Signed r x) (hx : |x| < 2 ^ 258) :
    Room ((r.zip m.modulus).map fun z => z.1 + (z.2 &&& (r.getD 8 0 >>> 31)))
      (x + if x < 0 then n else 0) := by
  have hn : |n| < 2 ^ 258 := by
    have := hm.pos
    have := hm.lt
    rw [abs_lt]
    omega
  have hlen : r.length = m.modulus.length := hr.length.trans hm.signed.length.symm
  have hitem : ∀ z ∈ r.zip m.modulus, (z.1 + (z.2 &&& (r.getD 8 0 >>> 31))).toInt =
      z.1.toInt + z.2.toInt * (if x < 0 then 1 else 0) ∧
      |z.1.toInt + z.2.toInt * (if x < 0 then 1 else 0)| ≤ 2 ^ 31 - 2 := by
    intro z hz
    have hz1 := abs_le.mp (small hr hx z.1 (List.of_mem_zip hz).1)
    have hz2 := abs_le.mp (small hm.signed hn z.2 (List.of_mem_zip hz).2)
    have hmask := signed_choice hr z.2
    have hle : |z.1.toInt + z.2.toInt * (if x < 0 then 1 else 0)| ≤ 2 ^ 31 - 2 := by
      rw [abs_le]
      split <;> omega
    refine ⟨?_, hle⟩
    rw [add32] <;> rw [hmask] <;> split <;> omega
  refine ⟨?_, ?_, ?_⟩
  · rw [List.length_map, List.length_zip, ← hlen, min_self, hr.length]
  · intro y hy
    obtain ⟨z, hz, rfl⟩ := List.mem_map.mp hy
    rw [(hitem z hz).1]
    exact (hitem z hz).2
  · rw [SignedWords.toInt, value_map, value_congr _ fun z hz => (hitem z hz).1,
      value_zip_add _ Int32.toInt (fun y : Int32 => y.toInt * _) hlen, value_mul]
    change toInt r + toInt m.modulus * _ = _
    rw [hr.eq, hm.signed.eq]
    split <;> ring

theorem Room.negate {r : S30} {x : ℤ} (h : Room r x) (c : Int32) :
    Room (r.map fun y => (y ^^^ (c >>> 31)) - (c >>> 31)) (if c.toInt < 0 then -x else x) := by
  by_cases hc : c.toInt < 0
  · have hitem : ∀ y ∈ r, ((y ^^^ (c >>> 31)) - (c >>> 31)).toInt = y.toInt * -1 := by
      intro y hy
      have hy' := abs_le.mp (h.le y hy)
      rw [xor_sub_sign, if_pos hc, Int32.toInt_neg, bmod_of_fits] <;> omega
    rw [if_pos hc]
    refine ⟨by rw [List.length_map, h.length], ?_, ?_⟩
    · intro z hz
      obtain ⟨y, hy, rfl⟩ := List.mem_map.mp hz
      rw [hitem y hy, mul_neg_one, abs_neg]
      exact h.le y hy
    · rw [SignedWords.toInt, value_map, value_congr _ hitem, value_mul, mul_neg_one]
      exact congrArg Neg.neg h.eq
  · have hmap : (r.map fun y => (y ^^^ (c >>> 31)) - (c >>> 31)) = r := by
      refine (List.map_congr_left fun y _ => ?_).trans r.map_id
      rw [xor_sub_sign, if_neg hc]
      rfl
    rwa [if_neg hc, hmap]

theorem added_modEq (x : ℤ) : (x + if x < 0 then n else 0) ≡ x [ZMOD n] := by
  split
  · exact Int.add_modEq_right
  · rw [add_zero]

/-- **`normalize`** gives the least residue of the number, negated when the sign is negative. -/
theorem normalize_spec (hm : Modulus m n) {r : S30} {x : ℤ} (hr : Signed r x)
    (hx : -2 * n < x ∧ x < n) (sign : Int32) :
    ∃ y : ℤ, Signed (normalize r sign m) y ∧ 0 ≤ y ∧ y < n ∧
      y ≡ (if sign.toInt < 0 then -x else x) [ZMOD n] := by
  have hn := hm.pos
  have hlt := hm.lt
  have hfirst := ((Room.of_add hm hr (by rw [abs_lt]; omega)).negate sign).propagate
  rw [List.map_map] at hfirst
  have hsecond := (Room.of_add hm hfirst (by rw [abs_lt]; split <;> split <;> omega)).propagate
  refine ⟨_, hsecond, ?_, ?_, ?_⟩
  · split <;> split <;> split <;> omega
  · split <;> split <;> split <;> omega
  · refine (added_modEq _).trans ?_
    split
    · exact (added_modEq x).neg
    · exact added_modEq x

end EspMid.P256.DivstepResidues
