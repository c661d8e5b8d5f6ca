import EspMid.P256.DivstepResidues

/-! # The sums of the inversion

The machine arithmetic of `update_fg` and `update_de` that the source leaves to the checks of the
language: products of signed words of 32 bits, and sums of them in 64. With rows of the matrix that
are together no larger than `2 ^ 30`, as thirty divsteps leave them, each is the number it stands
for, whatever the limbs (`fgFits`, `deFits`). -/

namespace EspMid.P256.DivstepSums

open EspMid.Lib.Limbs EspMid.Lib.SignedWords
open EspMid.Model.SafeGcd EspMid.P256.DivstepLimbs EspMid.P256.DivstepResidues

/-! ### What is computed in 64 bits -/

/-- A number that 64 signed bits hold. -/
def Fits (x : ℤ) : Prop := -2 ^ 63 ≤ x ∧ x < 2 ^ 63

/-- `a x + b y`, its products and their sum. -/
structure RowFits (a b x y : Int32) : Prop where
  left : Fits (a.toInt * x.toInt)
  right : Fits (b.toInt * y.toInt)
  sum : Fits (a.toInt * x.toInt + b.toInt * y.toInt)

/-- A row added to what is carried. -/
structure AddFits (a b x y : Int32) (c : Int64) : Prop extends RowFits a b x y where
  add : Fits (c.toInt + (a.toInt * x.toInt + b.toInt * y.toInt))

/-- A row and a multiple `w md`, added one after the other to what is carried. -/
structure AddBothFits (a b x y w md : Int32) (c : Int64) : Prop extends AddFits a b x y c where
  multiple : Fits (w.toInt * md.toInt)
  addMultiple : Fits (c.toInt + (a.toInt * x.toInt + b.toInt * y.toInt) + w.toInt * md.toInt)

/-- All of `updateFg`. -/
def FgFits (f g : S30) (t : Matrix) : Prop :=
  RowFits t.u t.v (f.getD 0 0) (g.getD 0 0) ∧ RowFits t.q t.r (f.getD 0 0) (g.getD 0 0) ∧
    Throughout (fgStep t)
      (fun z c => AddFits t.u t.v z.1 z.2 c.1 ∧ AddFits t.q t.r z.1 z.2 c.2)
      ((f.drop 1).zip (g.drop 1))
      (row t.u t.v (f.getD 0 0) (g.getD 0 0) >>> 30, row t.q t.r (f.getD 0 0) (g.getD 0 0) >>> 30)

/-- All of `updateDe`. -/
def DeFits (d e : S30) (t : Matrix) (m : ModInfo) : Prop :=
  let sd := d.getD 8 0 >>> 31
  let se := e.getD 8 0 >>> 31
  let di := d.getD 0 0
  let ei := e.getD 0 0
  let m0 := m.modulus.getD 0 0
  let cd := row t.u t.v di ei
  let ce := row t.q t.r di ei
  let md := multiple m ((t.u &&& sd) + (t.v &&& se)) cd
  let me := multiple m ((t.q &&& sd) + (t.r &&& se)) ce
  AddBothFits t.u t.v di ei m0 md 0 ∧ AddBothFits t.q t.r di ei m0 me 0 ∧
    Throughout (deStep t md me)
      (fun z c => AddBothFits t.u t.v z.1.1 z.1.2 z.2 md c.1 ∧
        AddBothFits t.q t.r z.1.1 z.1.2 z.2 me c.2)
      (((d.drop 1).zip (e.drop 1)).zip (m.modulus.drop 1))
      ((cd + m0.toInt64 * md.toInt64) >>> 30, (ce + m0.toInt64 * me.toInt64) >>> 30)

/-- All of a round. -/
def RoundFits (m : ModInfo) (s : Round) : Prop :=
  let w := divsteps30 s.zeta (s.f.getD 0 0).toUInt32 (s.g.getD 0 0).toUInt32
  DeFits s.d s.e w.2 m ∧ FgFits s.f s.g w.2

/-! ### That it fits -/

theorem fits_mul (x y : Int32) : Fits (x.toInt * y.toInt) := by
  rw [← mul64]
  exact ⟨Int64.le_toInt _, Int64.toInt_lt _⟩

/-- Both rows carry little. -/
def Carried (c : Int64 × Int64) : Prop := |c.1.toInt| ≤ 2 ^ 33 ∧ |c.2.toInt| ≤ 2 ^ 33

section Rows

variable {u v : Int32} (h : |u.toInt| + |v.toInt| ≤ 2 ^ 30)

include h

theorem rowFits (y z : Int32) : RowFits u v y z where
  left := fits_mul u y
  right := fits_mul v z
  sum := by
    have hle := abs_le.mp (row_spec h y z).2
    constructor <;> omega

theorem row_le (y z : Int32) : |(row u v y z).toInt| ≤ 2 ^ 61 := by
  rw [(row_spec h y z).1]
  exact (row_spec h y z).2

theorem addFits (y z : Int32) {c : Int64} (hc : |c.toInt| ≤ 2 ^ 33) : AddFits u v y z c where
  toRowFits := rowFits h y z
  add := by
    have hle := abs_le.mp (row_spec h y z).2
    rw [abs_le] at hc
    constructor <;> omega

theorem addBothFits (y z w md : Int32) {c : Int64} (hc : |c.toInt| ≤ 2 ^ 33) :
    AddBothFits u v y z w md c where
  toAddFits := addFits h y z hc
  multiple := fits_mul w md
  addMultiple := by
    obtain ⟨hval, hle⟩ := deItem_spec h md ((y, z), w)
    simp only at hval
    rw [hval, (row_spec h y z).1, abs_le] at hle
    rw [abs_le] at hc
    constructor <;> omega

theorem first_le (y z w md : Int32) :
    |((row u v y z + w.toInt64 * md.toInt64) >>> 30).toInt| ≤ 2 ^ 33 := by
  have hle := abs_le.mp (deItem_spec h md ((y, z), w)).2
  change |(deItem u v md ((y, z), w) >>> 30).toInt| ≤ 2 ^ 33
  rw [shift64, abs_le]
  omega

end Rows

variable {t : Matrix} (hu : |t.u.toInt| + |t.v.toInt| ≤ 2 ^ 30)
  (hq : |t.q.toInt| + |t.r.toInt| ≤ 2 ^ 30)

include hu hq

/-- **No sum of `update_fg` overflows.** -/
theorem fgFits (f g : S30) : FgFits f g t := by
  refine ⟨rowFits hu _ _, rowFits hq _ _, ?_⟩
  have hstep : ∀ z ∈ (f.drop 1).zip (g.drop 1), ∀ c, Carried c →
      (AddFits t.u t.v z.1 z.2 c.1 ∧ AddFits t.q t.r z.1 z.2 c.2) ∧
        Carried (fgStep t z c).2 := by
    intro z _ c hc
    refine ⟨⟨addFits hu _ _ hc.1, addFits hq _ _ hc.2⟩, carried_le hc.1 ?_, carried_le hc.2 ?_⟩
    · exact (row_le hu _ _).trans (by norm_num)
    · exact (row_le hq _ _).trans (by norm_num)
  refine Throughout.of_invariant hstep ⟨?_, ?_⟩
  · have hle := abs_le.mp (row_le hu (f.getD 0 0) (g.getD 0 0))
    rw [shift64, abs_le]
    omega
  · have hle := abs_le.mp (row_le hq (f.getD 0 0) (g.getD 0 0))
    rw [shift64, abs_le]
    omega

theorem deThroughout (md me : Int32) (xs : List ((Int32 × Int32) × Int32)) {c : Int64 × Int64}
    (hc : Carried c) :
    Throughout (deStep t md me)
      (fun z c => AddBothFits t.u t.v z.1.1 z.1.2 z.2 md c.1 ∧
        AddBothFits t.q t.r z.1.1 z.1.2 z.2 me c.2) xs c := by
  refine Throughout.of_invariant (fun z _ c (hc : Carried c) => ?_) hc
  refine ⟨⟨addBothFits hu _ _ _ _ hc.1, addBothFits hq _ _ _ _ hc.2⟩, ?_⟩
  unfold deStep
  simp only
  rw [Int64.add_assoc, Int64.add_assoc]
  exact ⟨carried_le hc.1 (deItem_spec hu md z).2, carried_le hc.2 (deItem_spec hq me z).2⟩

/-- **No sum of `update_de` overflows.** -/
theorem deFits (d e : S30) (m : ModInfo) : DeFits d e t m := by
  have hzero : |(0 : Int64).toInt| ≤ 2 ^ 33 := by decide
  unfold DeFits
  simp only
  generalize multiple m ((t.u &&& (d.getD 8 0 >>> 31)) + (t.v &&& (e.getD 8 0 >>> 31)))
    (row t.u t.v (d.getD 0 0) (e.getD 0 0)) = md
  generalize multiple m ((t.q &&& (d.getD 8 0 >>> 31)) + (t.r &&& (e.getD 8 0 >>> 31)))
    (row t.q t.r (d.getD 0 0) (e.getD 0 0)) = me
  exact ⟨addBothFits hu _ _ _ _ hzero, addBothFits hq _ _ _ _ hzero,
    deThroughout hu hq md me _ ⟨first_le hu _ _ _ _, first_le hq _ _ _ _⟩⟩

end EspMid.P256.DivstepSums
