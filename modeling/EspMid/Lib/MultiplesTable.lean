import EspMid.Lib.Weierstrass
import Mathlib.Algebra.Field.ZMod

/-! # Tables of multiples, checked

A table of the multiples of a point over a prime field, each entry two numbers. The check is a
Boolean the kernel evaluates: an entry is right when the complete sum of two earlier ones is a
multiple of it (`Stand.of_check`), and so are all the entries of rows that go on from one
another (`Stand.of_tableOk`). Powers of two times a point are sums of the same kind
(`stand_mul`). -/

namespace EspMid.Lib.MultiplesTable

open EspMid.Lib.Weierstrass

/-- Coordinates that are numbers. -/
structure Numbers where
  x : ℕ
  y : ℕ
  z : ℕ
  deriving DecidableEq

/-- The complete sum modulo `p`; `a ^ 2` is less than nothing by `(p - 1) a ^ 2`. -/
def sumMod (p a b : ℕ) (T S : Numbers) : Numbers :=
  let xy := T.x * S.y + S.x * T.y
  let xz := T.x * S.z + S.x * T.z
  let yz := T.y * S.z + S.y * T.z
  let zz := T.z * S.z
  let m := (a * xz + 3 * b * zz) % p
  let s := (a * (T.x * S.x) + 3 * b * xz + (p - 1) * (a * a) * zz) % p
  let t := (3 * (T.x * S.x) + a * zz) % p
  let yy := T.y * S.y
  ⟨(xy * (yy + (p - 1) * m) + (p - 1) * (yz * s)) % p, ((yy + m) * (yy + (p - 1) * m) + t * s) % p,
    (yz * (yy + m) + xy * t) % p⟩

/-- An affine entry. -/
abbrev Entry := ℕ × ℕ

/-- An entry as projective coordinates. -/
def Entry.numbers (A : Entry) : Numbers := ⟨A.1, A.2, 1⟩

/-- The entry `D` is the sum of `A` and `B`. -/
def check (p a b : ℕ) (A B D : Entry) : Bool :=
  let S := sumMod p a b (Entry.numbers A) (Entry.numbers B)
  S.z != 0 && S.x == D.1 * S.z % p && S.y == D.2 * S.z % p

/-- The entries after `prev`, each the one before and the base. -/
def rowOk (p a b : ℕ) (base : Entry) : Entry → List Entry → Bool
  | _, [] => true
  | prev, e :: es => check p a b prev base e && rowOk p a b base e es

/-- Rows of multiples, each from twice the last entry of the one before. -/
def tableOk (p a b : ℕ) : List (List Entry) → Bool
  | [] => true
  | [] :: _ => false
  | (base :: es) :: rows =>
    rowOk p a b base base es && (rows.head?.bind List.head?).all
      (check p a b ((base :: es).getLast (List.cons_ne_nil _ _))
        ((base :: es).getLast (List.cons_ne_nil _ _))) && tableOk p a b rows

/-- The multiple of a point by a number of `bits` bits, by doubling. -/
def mul (p a b : ℕ) : ℕ → Numbers → ℕ → Numbers
  | 0, _, _ => ⟨0, 1, 0⟩
  | bits + 1, T, k =>
    let rest := mul p a b bits (sumMod p a b T T) (k / 2)
    if k % 2 = 1 then sumMod p a b T rest else rest

/-! ### What the numbers stand for -/

section
variable {p : ℕ} [Fact p.Prime] {a b : ℕ}

/-- The coordinates of the field. -/
def Numbers.coords (p : ℕ) (T : Numbers) : Coords (ZMod p) := ⟨T.x, T.y, T.z⟩

/-- Numbers that stand for a point of the curve. -/
def Stand (T : Numbers) (Q : (curve (a : ZMod p) (b : ZMod p)).Point) : Prop :=
  Represents (T.coords p) Q

theorem coords_sumMod (T S : Numbers) :
    (sumMod p a b T S).coords p = sum (a : ZMod p) b (T.coords p) (S.coords p) := by
  have hp : 1 ≤ p := (Fact.out : p.Prime).one_lt.le
  simp only [sumMod, Numbers.coords, sum, ZMod.natCast_mod, Coords.mk.injEq]
  push_cast [Nat.cast_sub hp, ZMod.natCast_mod]
  refine ⟨?_, ?_, ?_⟩ <;> simp <;> ring

variable {Q Q' : (curve (a : ZMod p) (b : ZMod p)).Point}

theorem Stand.add (h : NoTwoTorsion (a : ZMod p) b) {T S : Numbers} (hT : Stand T Q)
    (hS : Stand S Q') : Stand (sumMod p a b T S) (Q + Q') := by
  unfold Stand
  rw [coords_sumMod]
  exact hT.sum h hS

theorem cast_ne_zero {n : ℕ} (hn : n < p) (h0 : n ≠ 0) : (n : ZMod p) ≠ 0 := by
  rw [ne_eq, ZMod.natCast_eq_zero_iff]
  exact fun hdvd => h0 (Nat.eq_zero_of_dvd_of_lt hdvd hn)

/-- **A checked entry** is the sum. -/
theorem Stand.of_check (h : NoTwoTorsion (a : ZMod p) b) {A B D : Entry}
    (hA : Stand (Entry.numbers A) Q) (hB : Stand (Entry.numbers B) Q')
    (hc : check p a b A B D = true) : Stand (Entry.numbers D) (Q + Q') := by
  have hsum := hA.add h hB
  simp only [check, Bool.and_eq_true, bne_iff_ne, beq_iff_eq] at hc
  obtain ⟨⟨hz, hx⟩, hy⟩ := hc
  have hzlt : (sumMod p a b (Entry.numbers A) (Entry.numbers B)).z < p :=
    Nat.mod_lt _ (Fact.out : p.Prime).pos
  generalize sumMod p a b (Entry.numbers A) (Entry.numbers B) = S at hsum hz hx hy hzlt
  refine Represents.of_smul (cast_ne_zero hzlt hz) ?_
  have hxc : ((S.z : ZMod p)) * D.1 = S.x := by rw [hx, ZMod.natCast_mod, Nat.cast_mul, mul_comm]
  have hyc : ((S.z : ZMod p)) * D.2 = S.y := by rw [hy, ZMod.natCast_mod, Nat.cast_mul, mul_comm]
  simp only [Numbers.coords, Entry.numbers, hxc, hyc, Nat.cast_one, mul_one]
  exact hsum

/-- The entries of a row that passes are the next multiples. -/
theorem Stand.of_rowOk (h : NoTwoTorsion (a : ZMod p) b) {base prev : Entry} {es : List Entry}
    (hbase : Stand (Entry.numbers base) Q) {m : ℕ} (hprev : Stand (Entry.numbers prev) (m • Q))
    (hok : rowOk p a b base prev es = true) :
    ∀ j, (hj : j < es.length) → Stand (Entry.numbers es[j]) ((m + 1 + j) • Q) := by
  induction es generalizing prev m with
  | nil => exact fun j hj => absurd hj (Nat.not_lt_zero j)
  | cons e es ih =>
    rw [rowOk, Bool.and_eq_true] at hok
    have he : Stand (Entry.numbers e) ((m + 1) • Q) := by
      rw [succ_nsmul]
      exact hprev.of_check h hbase hok.1
    intro j hj
    cases j with
    | zero => exact he
    | succ j =>
      have hrest := ih he hok.2 j (Nat.lt_of_succ_lt_succ hj)
      rwa [Nat.add_assoc _ 1 j, Nat.add_comm 1 j] at hrest

/-- **The entries of a table that passes**, with rows of `w` entries. -/
theorem Stand.of_tableOk (h : NoTwoTorsion (a : ZMod p) b) {rows : List (List Entry)} {w : ℕ}
    (hw : ∀ row ∈ rows, row.length = w) (hok : tableOk p a b rows = true)
    (hfirst : ∀ base ∈ rows.head?.bind List.head?, Stand (Entry.numbers base) Q) :
    ∀ i, (hi : i < rows.length) → ∀ j, (hj : j < rows[i].length) →
      Stand (Entry.numbers rows[i][j]) (((j + 1) * (2 * w) ^ i) • Q) := by
  induction rows generalizing Q with
  | nil => exact fun i hi => absurd hi (Nat.not_lt_zero i)
  | cons row rows ih =>
    cases row with
    | nil => simp [tableOk] at hok
    | cons base es =>
      rw [tableOk, Bool.and_eq_true, Bool.and_eq_true] at hok
      obtain ⟨⟨hrow, hnext⟩, hrest⟩ := hok
      have hbase := hfirst base rfl
      have hlen : es.length + 1 = w := hw _ List.mem_cons_self
      have hentry : ∀ j, (hj : j < (base :: es).length) →
          Stand (Entry.numbers (base :: es)[j]) ((j + 1) • Q) := by
        intro j hj
        cases j with
        | zero => simpa using hbase
        | succ j =>
          have hj' := Stand.of_rowOk h hbase (m := 1) (by simpa using hbase) hrow j
            (Nat.lt_of_succ_lt_succ hj)
          rwa [Nat.add_comm 1 1, Nat.add_assoc 1 1 j, Nat.add_comm 1, Nat.add_comm 1] at hj'
      intro i hi
      cases i with
      | zero =>
        intro j hj
        rw [pow_zero, mul_one]
        exact hentry j hj
      | succ i =>
        have hlast : Stand (Entry.numbers ((base :: es).getLast (List.cons_ne_nil _ _))) (w • Q) := by
          have hl := hentry es.length (Nat.lt_succ_self _)
          rw [hlen] at hl
          rwa [List.getLast_eq_getElem]
        have hfirst' : ∀ b' ∈ rows.head?.bind List.head?, Stand (Entry.numbers b') ((2 * w) • Q) := by
          intro b' hb'
          rw [two_mul, add_nsmul]
          exact hlast.of_check h hlast ((Option.all_eq_true _ _).mp hnext b' hb')
        intro j hj
        have hj' := ih (fun row hr => hw row (List.mem_cons_of_mem _ hr)) hrest hfirst' i
          (Nat.lt_of_succ_lt_succ hi) j hj
        rw [← mul_nsmul', mul_assoc, ← pow_succ] at hj'
        exact hj'

/-- **A multiple by doubling.** -/
theorem stand_mul (h : NoTwoTorsion (a : ZMod p) b) (bits : ℕ) {T : Numbers} (hT : Stand T Q)
    {k : ℕ} (hk : k < 2 ^ bits) : Stand (mul p a b bits T k) (k • Q) := by
  induction bits generalizing T Q k with
  | zero =>
    obtain rfl : k = 0 := by simpa using hk
    rw [zero_nsmul]
    exact ⟨by simp [mul, Numbers.coords], by simp [mul, Numbers.coords],
      by simp [mul, Numbers.coords]⟩
  | succ bits ih =>
    have hrest := ih (hT.add h hT) (k := k / 2) (by omega)
    rw [← two_nsmul, ← mul_nsmul] at hrest
    unfold mul
    simp only
    split_ifs with hodd
    · have hsum := hT.add h hrest
      rw [← succ_nsmul', show 2 * (k / 2) + 1 = k by omega] at hsum
      exact hsum
    · rwa [show 2 * (k / 2) = k by omega] at hrest

theorem Stand.eq_zero {T : Numbers} (hT : Stand T Q) (hz : T.z = 0) : Q = 0 := by
  cases Q with
  | zero => rfl
  | some x y h => exact absurd (by simp [Numbers.coords, hz]) hT.1

theorem nsmul_eq_zero (h : NoTwoTorsion (a : ZMod p) b) {bits : ℕ} {T : Numbers} (hT : Stand T Q)
    {k : ℕ} (hk : k < 2 ^ bits) (hz : (mul p a b bits T k).z = 0) : k • Q = 0 :=
  (stand_mul h bits hT hk).eq_zero hz

end

end EspMid.Lib.MultiplesTable
