import EspMid.Lib.Cubic
import EspMid.Lib.MultiplesTable
import EspMid.Model.Curve
import EspMid.P256.FieldPowers
import EspMid.P256.Multiply

/-! # The curve P-256

The source's parameters are those of `y ^ 2 = x ^ 3 - 3 x + b` over the field of `p` elements
(`curveFor`), a curve with no point of order two; its generator has the prime order `n`
(`order_generator`), and the entries of its table are the multiples they should be (`tableFor`). -/

namespace EspMid.P256.Curve

open EspMid.Lib.Words EspMid.Lib.Weierstrass EspMid.Lib.MultiplesTable EspMid.Model.BaseField
open EspMid.Model.Curve (B B_lt NistP256)
open EspMid.Model.GeneratorTable EspMid.Model.PointArithmetic
open EspMid.P256.BaseField EspMid.P256.CompleteAddition EspMid.P256.Field EspMid.P256.Multiply
open EspMid.P256.Primes

/-- `-3` as a number. -/
def A : ℕ := p - 3

/-- The points of the curve. -/
abbrev Point := (curve (A : ZMod p) (B : ZMod p)).Point

theorem cast_A : (A : ZMod p) = -3 := by
  rw [A, Nat.cast_sub (by decide), ZMod.natCast_self, zero_sub]
  rfl

/-! ### The parameters -/

theorem toZMod_fromHex {h : ℕ} (hlt : h < p) : toZMod (FieldElement.fromHex h hlt) = h := by
  rw [FieldElement.fromHex, toZMod_fromUintUnchecked, toNat_ofNat_of_lt (hlt.trans p_lt)]

theorem toZMod_fromU64 (w : UInt64) : toZMod (FieldElement.fromU64 w) = w.toNat := by
  rw [FieldElement.fromU64, toZMod_fromUintUnchecked, FieldElement.toNat_words64]

/-- **The elements stand for the field.** -/
theorem standsFor : StandsFor toZMod where
  zero := toZMod_zero
  one := toZMod_one
  add := toZMod_add
  sub := toZMod_sub
  mul := toZMod_mul
  neg := toZMod_neg
  double x := (toZMod_double x).trans (two_mul _)
  square x := (toZMod_square x).trans (pow_two _)
  three := toZMod_fromU64 3

/-- The inverse of the remainder of `X ^ p - X` modulo the curve's cubic. -/
def cubicInverse : EspMid.Lib.Cubic.Quadratic :=
  ⟨0xa969487079f1744798bf0de6fded091b66e9d328eb0645fe5d979d1339b7f47f,
    0xa4a08891884100c13323460107a8d28eede4387fa3e6e9bfebec9f6d72d0b5cc,
    0x4cde11cf86cb876cd59cf0115813c55af0ecd3cda667d98bb9a347a56aa74a6d⟩

/-- The inverse of `R` in the field, as a number. -/
def R_INV : ℕ := 0xfffffffe00000003fffffffd0000000200000001fffffffe0000000300000000

/-- The number that a number in Montgomery form stands for. -/
def plain (h : ℕ) : ℕ := h * R_INV % p

/-- An entry as plain numbers. -/
def plainEntry (e : ℕ × ℕ) : Entry := (plain e.1, plain e.2)

/-- What is evaluated: the curve's cubic has no root, the order takes the generator to zero, and the
rows are those of a table. -/
theorem checks :
    EspMid.Lib.Cubic.check p 3 (p - B) 256 cubicInverse = true ∧
      (mul p A B 256 (Entry.numbers Model.Curve.G) n).z = 0 ∧
      ROWS.length = 52 ∧ (∀ row ∈ ROWS, row.length = 16) ∧
      tableOk p A B (ROWS.map (List.map plainEntry)) = true ∧
      (ROWS.map (List.map plainEntry)).head?.bind List.head? = some Model.Curve.G := by
  decide +kernel

/-- **No point of order two.** -/
theorem noTwoTorsion : NoTwoTorsion (A : ZMod p) (B : ZMod p) where
  two_ne_zero := by
    have h := cast_ne_zero (p := p) (n := 2) (by decide) (by decide)
    exact_mod_cast h
  root x := by
    have h := EspMid.Lib.Cubic.no_root checks.1 x
    rw [Nat.cast_sub (by decide), ZMod.natCast_self] at h
    rw [cast_A]
    intro hroot
    refine h ?_
    push_cast
    linear_combination hroot

/-- **The source's parameters** are those of the curve. -/
theorem curveFor : CurveFor toZMod NistP256 (A : ZMod p) B where
  toStandsFor := standsFor
  a_eq := by
    change toZMod (-FieldElement.fromU64 3) = _
    rw [toZMod_neg, toZMod_fromU64, cast_A]
    rfl
  b_eq := toZMod_fromHex B_lt
  minusThree _ := cast_A
  torsion := noTwoTorsion

/-! ### The generator -/

theorem equation_generator : (curve (A : ZMod p) (B : ZMod p)).Equation
    (Model.Curve.G.1 : ZMod p) Model.Curve.G.2 := by
  have hmod : Model.Curve.G.2 ^ 2 ≡ Model.Curve.G.1 ^ 3 + A * Model.Curve.G.1 + B [MOD p] := by
    decide
  have hcast := (ZMod.natCast_eq_natCast_iff _ _ _).mpr hmod
  rw [equation_iff]
  push_cast at hcast
  exact hcast

theorem nonsingular {x y : ZMod p} (h : (curve (A : ZMod p) (B : ZMod p)).Equation x y) :
    (curve (A : ZMod p) (B : ZMod p)).Nonsingular x y := by
  rw [WeierstrassCurve.Affine.nonsingular_iff]
  refine ⟨h, Or.inr ?_⟩
  have hne := noTwoTorsion.ne_negY h
  simpa [WeierstrassCurve.Affine.negY] using hne

/-- The generator. -/
def generator : Point := .some _ _ (nonsingular equation_generator)

theorem stand_generator : Stand (Entry.numbers Model.Curve.G) generator := by
  refine ⟨?_, ?_, ?_⟩ <;> simp [Numbers.coords, Entry.numbers]

/-- **The order of the generator.** -/
theorem order_generator : addOrderOf generator = n := by
  have hlt : n < 2 ^ 256 := by decide
  have hzero : n • generator = 0 := nsmul_eq_zero noTwoTorsion stand_generator hlt checks.2.1
  exact addOrderOf_eq_prime hzero nofun

/-! ### The table -/

theorem cast_plain {h : ℕ} (hlt : h < p) : (plain h : ZMod p) = toZMod (fe h hlt) := by
  have hinv : (R : ZMod p) * (R_INV : ZMod p) = 1 := by
    have hmod : R * R_INV ≡ 1 [MOD p] := by decide
    have hcast := (ZMod.natCast_eq_natCast_iff _ _ _).mpr hmod
    rw [Nat.cast_mul, Nat.cast_one] at hcast
    exact hcast
  rw [plain, ZMod.natCast_mod, Nat.cast_mul, eq_inv_of_mul_eq_one_right hinv, toZMod, residue, fe,
    toNat_ofNat_of_lt (hlt.trans p_lt)]

theorem standsAffine_of_stand {x y : FieldElement} {e : Entry} {Q : Point} (hx : toZMod x = e.1)
    (hy : toZMod y = e.2) (h : Stand (Entry.numbers e) Q) : StandsAffine toZMod ⟨x, y, false⟩ Q := by
  cases Q with
  | zero => exact absurd h.2.2 (by simp [Numbers.coords, Entry.numbers])
  | some qx qy hq =>
    obtain ⟨-, hqx, hqy⟩ := h
    simp only [Numbers.coords, Entry.numbers, Nat.cast_one, mul_one] at hqx hqy
    exact ⟨rfl, hx.trans hqx, hy.trans hqy⟩

theorem tableFor_of_ok {rows : List (List (ℕ × ℕ))}
    (hlt : ∀ row ∈ rows, ∀ e ∈ row, e.1 < p ∧ e.2 < p) (hrows : rows.length = 52)
    (hentries : ∀ row ∈ rows, row.length = 16)
    (hok : tableOk p A B (rows.map (List.map plainEntry)) = true)
    (hfirst : ((rows.map (List.map plainEntry)).head?.bind List.head?) = some Model.Curve.G) :
    TableFor toZMod
      (rows.pmap (fun row h => row.pmap (fun e he => (fe e.1 he.1, fe e.2 he.2)) h) hlt) generator where
  rows := by rw [List.length_pmap, hrows]
  entries row hrow := by
    obtain ⟨r, hr, rfl⟩ := List.mem_pmap.mp hrow
    rw [List.length_pmap, hentries r hr]
  multiple i hi j hj := by
    have hi' : i < rows.length := hrows ▸ hi
    have hj' : j < rows[i].length := hentries _ (List.getElem_mem hi') ▸ hj
    have hstand := Stand.of_tableOk noTwoTorsion (Q := generator) (w := 16)
      (by
        intro row hrow
        obtain ⟨r, hr, rfl⟩ := List.mem_map.mp hrow
        rw [List.length_map, hentries r hr]) hok
      (by
        intro base hbase
        rw [hfirst] at hbase
        obtain rfl := Option.mem_some.mp hbase
        exact stand_generator) i (by rwa [List.length_map]) j (by simpa using hj')
    obtain ⟨hx, hy⟩ := hlt _ (List.getElem_mem hi') _ (List.getElem_mem hj')
    have hget : ((rows.pmap (fun row h => row.pmap (fun e he => (fe e.1 he.1, fe e.2 he.2)) h)
        hlt).getD i []).getD j (0, 0) =
        (fe rows[i][j].1 hx, fe rows[i][j].2 hy) := by
      simp [hi', hj']
    rw [hget]
    simp only [List.getElem_map] at hstand
    exact standsAffine_of_stand (cast_plain hx).symm (cast_plain hy).symm hstand

/-- **The generator's table** holds the multiples it should. -/
theorem tableFor : TableFor toZMod GENERATOR_TABLE generator := by
  obtain ⟨-, -, hrows, hentries, hok, hfirst⟩ := checks
  exact tableFor_of_ok rows_lt hrows hentries hok hfirst

end EspMid.P256.Curve
