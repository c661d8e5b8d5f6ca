import EspMid.P256.CompleteAddition
import EspMid.P256.ScalarWindows
import Mathlib.Data.List.GetD

/-! # Both multiplies multiply

On any curve of the source's kind: the windowed multiply of a point that stands for `Q` stands for
`k Q` (`stands_mulWindowed`), and with a table of the multiples of `32 ^ i G` the table's multiply
stands for `k G` (`stands_mulByTable`). -/

namespace EspMid.P256.Multiply

open EspMid.Lib.Limbs (range_loop)
open EspMid.Lib.Weierstrass EspMid.Lib.Windows EspMid.Model.PointArithmetic
open EspMid.Model.Projective EspMid.Model.Projective.ProjectivePoint
open EspMid.P256.CompleteAddition EspMid.P256.ScalarWindows

variable {K F : Type} [PrimeField K] [Field F] {φ : K → F}
  {C : PrimeCurveParams K} {a b : F} {P : ProjectivePoint K} {Q : (curve a b).Point}

theorem stands_identity (h : StandsFor φ) : Stands φ IDENTITY (0 : (curve a b).Point) :=
  ⟨h.zero, by rw [coords, IDENTITY, h.one]; exact one_ne_zero, h.zero⟩

/-! ### The windowed multiply -/

variable [DecidableEq F]

/-- A list of the multiples of a point. -/
def Multiples (φ : K → F) (pc : List (ProjectivePoint K)) (Q : (curve a b).Point) : Prop :=
  ∀ j < pc.length, Stands φ (pc.getD j IDENTITY) (j • Q)

theorem Multiples.step (h : CurveFor φ C a b) (hP : Stands φ P Q) {pc : List (ProjectivePoint K)}
    (hpc : Multiples φ pc Q) (hlen : 2 ≤ pc.length) :
    Multiples φ (multiplesStep C P pc pc.length) Q := by
  intro j hj
  unfold multiplesStep at hj ⊢
  rw [List.length_append, List.length_singleton] at hj
  obtain hlt | rfl := Nat.lt_succ_iff_lt_or_eq.mp hj
  · rw [List.getD_append _ _ _ _ hlt]
    exact hpc j hlt
  · rw [List.getD_append_right _ _ _ _ le_rfl, Nat.sub_self, List.getD_cons_zero]
    split_ifs with heven
    · have hhalf := (hpc (pc.length / 2) (by omega)).double h
      rwa [← add_nsmul, show pc.length / 2 + pc.length / 2 = pc.length by omega] at hhalf
    · have hnext := (hpc (pc.length - 1) (by omega)).add h hP
      rwa [← succ_nsmul, Nat.sub_add_cancel (by omega)] at hnext

/-- **The multiples** up to 15. -/
theorem multiples_spec (h : CurveFor φ C a b) (hP : Stands φ P Q) :
    (multiples C P).length = 16 ∧ Multiples φ (multiples C P) Q := by
  have hloop := range_loop (f := fun pc i => multiplesStep C P pc (2 + i))
    (I := fun i pc => pc.length = 2 + i ∧ Multiples φ pc Q) (n := 14) (fun i _ pc hpc => by
      obtain ⟨hlen, hm⟩ := hpc
      refine ⟨by simp [multiplesStep, hlen, Nat.add_assoc], ?_⟩
      rw [← hlen]
      exact hm.step h hP (by omega)) (s := [IDENTITY, P]) ⟨rfl, fun j hj => by
        obtain rfl | rfl : j = 0 ∨ j = 1 := by simp at hj; omega
        · rw [zero_nsmul]
          exact stands_identity h.toStandsFor
        · rw [one_nsmul]
          exact hP⟩
  have hfold : multiples C P =
      (List.range 14).foldl (fun pc i => multiplesStep C P pc (2 + i)) [IDENTITY, P] := by
    rw [multiples, List.range'_eq_map_range, List.foldl_map]
  rw [hfold]
  exact hloop

theorem select_eq (pc : List (ProjectivePoint K)) {slot : UInt8} (hslot : slot.toNat < 16) :
    select pc slot = if slot.toNat = 0 then IDENTITY else pc.getD slot.toNat IDENTITY := by
  have hsame : ∀ i ∈ List.range' 1 15,
      sameChoice slot.toUInt32 (UInt32.ofNat i) = true ↔ slot.toNat = i := by
    intro i hi
    have hi' : i < 256 := by
      rw [List.mem_range'] at hi
      omega
    have hof : (UInt32.ofNat i).toNat = i := UInt32.toNat_ofNat_of_lt' (hi'.trans (by decide))
    rw [sameChoice_iff (by rw [UInt8.toNat_toUInt32]; omega) (by rw [hof]; exact hi'),
      ← UInt32.toNat_inj, UInt8.toNat_toUInt32, hof]
  refine foldl_select (fun i hi h => ?_) ?_
  · obtain rfl := (hsame i hi).mp h
    rw [List.mem_range'] at hi
    rw [if_neg (by omega)]
  · split_ifs with h0
    · exact Or.inl rfl
    · have hmem : slot.toNat ∈ List.range' 1 15 := by
        rw [List.mem_range']
        exact ⟨slot.toNat - 1, by omega, by omega⟩
      exact Or.inr ⟨slot.toNat, hmem, (hsame _ hmem).mpr rfl⟩

theorem stands_select (h : CurveFor φ C a b) (hP : Stands φ P Q) {slot : UInt8}
    (hslot : slot.toNat < 16) : Stands φ (select (multiples C P) slot) (slot.toNat • Q) := by
  obtain ⟨hlen, hm⟩ := multiples_spec h hP
  rw [select_eq _ hslot]
  split_ifs with h0
  · rw [h0, zero_nsmul]
    exact stands_identity h.toStandsFor
  · exact hm _ (by omega)

theorem stands_mulStep (h : CurveFor φ C a b) (hP : Stands φ P Q) (k : ℕ) {j : ℕ} (hj : j < 63)
    {q : ProjectivePoint K} (hq : Stands φ q ((k / 16 ^ (j + 1)) • Q)) :
    Stands φ (mulStep C (multiples C P) (leBytes k) q j) ((k / 16 ^ j) • Q) := by
  have hslot := slot_eq k (show j < 64 by omega)
  have hsel := stands_select h hP (slot_lt (leBytes k) (4 * j))
  have hsum := ((((hq.double h).double h).double h).double h).add h hsel
  have hdigit := div_pow_eq 16 k j
  rw [hslot] at hsum
  simp only [← add_nsmul] at hsum
  generalize k / 16 ^ (j + 1) = m at hdigit hsum
  generalize k / 16 ^ j % 16 = d at hdigit hsum
  rwa [show m + m + (m + m) + (m + m + (m + m)) + (m + m + (m + m) + (m + m + (m + m))) + d =
    16 * m + d by omega, ← hdigit] at hsum

/-- **The windowed multiply** of a point, by every scalar. -/
theorem stands_mulWindowed (h : CurveFor φ C a b) (hP : Stands φ P Q) {k : ℕ} (hk : k < 2 ^ 256) :
    Stands φ (mulWindowed C P k) (k • Q) := by
  have hslot := slot_eq k (show 63 < 64 by omega)
  have hsel := stands_select h hP (slot_lt (leBytes k) 252)
  have hfirst : Stands φ (add C IDENTITY (select (multiples C P) (slot (leBytes k) 252)))
      ((k / 16 ^ 63) • Q) := by
    have hadd := (stands_identity h.toStandsFor).add h hsel
    have htop : k / 16 ^ 63 % 16 = k / 16 ^ 63 :=
      Nat.mod_eq_of_lt (Nat.div_lt_of_lt_mul hk)
    rwa [zero_add, hslot, htop] at hadd
  have hloop := reverse_loop (f := mulStep C (multiples C P) (leBytes k))
    (I := fun j q => Stands φ q ((k / 16 ^ j) • Q))
    (fun j hj q hq => stands_mulStep h hP k hj hq) hfirst
  rwa [pow_zero, Nat.div_one] at hloop

/-! ### The table's multiply -/

/-- A table of the multiples of `32 ^ i G`. -/
structure TableFor (φ : K → F) (table : GeneratorTable K) (G : (curve a b).Point) : Prop where
  rows : table.length = 52
  entries : ∀ row ∈ table, row.length = 16
  multiple : ∀ i < 52, ∀ j < 16, StandsAffine φ
    ⟨((table.getD i []).getD j (0, 0)).1, ((table.getD i []).getD j (0, 0)).2, false⟩
    (((j + 1) * 32 ^ i) • G)

/-- **The lookup** of a magnitude that is not zero. -/
theorem lookup_eq {row : List (K × K)} (hrow : row.length = 16) {abs : UInt8}
    (hpos : 0 < abs.toNat) (hle : abs.toNat ≤ 16) :
    lookup row abs = row.getD (abs.toNat - 1) (0, 0) := by
  obtain ⟨x, xs, rfl⟩ := List.exists_cons_of_length_eq_add_one hrow
  rw [List.length_cons] at hrow
  have hsame : ∀ entry ∈ xs.zipIdx 1,
      sameChoice abs.toUInt32 (UInt32.ofNat (entry.2 + 1)) = true ↔ abs.toNat = entry.2 + 1 := by
    intro entry hentry
    have hlt := (List.mem_zipIdx hentry).2.1
    have hof : (UInt32.ofNat (entry.2 + 1)).toNat = entry.2 + 1 :=
      UInt32.toNat_ofNat_of_lt' (show entry.2 + 1 < 2 ^ 32 by omega)
    rw [sameChoice_iff (by rw [UInt8.toNat_toUInt32]; omega) (by rw [hof]; omega),
      ← UInt32.toNat_inj, UInt8.toNat_toUInt32, hof]
  unfold lookup
  rw [List.zipIdx_cons, List.drop_one, List.tail_cons, List.headD_cons, Nat.zero_add]
  refine foldl_select (fun entry hentry h => ?_) ?_
  · have habs := (hsame entry hentry).mp h
    obtain ⟨hle1, hget⟩ := List.mem_zipIdx_iff_le_and_getElem?_sub.mp hentry
    obtain ⟨m, hm⟩ := Nat.exists_eq_add_of_le' hle1
    rw [hm, Nat.add_sub_cancel] at hget
    rw [habs, Nat.add_sub_cancel, hm, List.getD_cons_succ, List.getD_eq_getElem?_getD, hget,
      Option.getD_some]
  · obtain h1 | ⟨m, hm⟩ : abs.toNat = 1 ∨ ∃ m, abs.toNat = m + 2 := by
      obtain h1 | h2 := Nat.eq_or_lt_of_le hpos
      · exact Or.inl h1.symm
      · exact Or.inr ⟨abs.toNat - 2, by omega⟩
    · left
      rw [h1, Nat.sub_self, List.getD_cons_zero]
    · right
      have hlt : m < xs.length := by omega
      have hmem : (xs[m], m + 1) ∈ xs.zipIdx 1 := by
        rw [List.mk_mem_zipIdx_iff_le_and_getElem?_sub, Nat.add_sub_cancel]
        exact ⟨by omega, List.getElem?_eq_getElem hlt⟩
      exact ⟨_, hmem, (hsame _ hmem).mpr hm⟩

/-- **A row's entry** for a window and the carry into it: the signed digit's multiple. -/
theorem standsAffine_digit (h : StandsFor φ) {table : GeneratorTable K} {G : (curve a b).Point}
    (ht : TableFor φ table G) {i : ℕ} (hi : i < 52) {w : UInt8} (hw : w.toNat ≤ 32) :
    StandsAffine φ
      ⟨(lookup (table.getD i []) (magnitude w)).1,
        if negBit w == 1 then -(lookup (table.getD i []) (magnitude w)).2
          else (lookup (table.getD i []) (magnitude w)).2,
        sameChoice (magnitude w).toUInt32 0⟩
      ((((w.toNat : ℤ) - (32 * (negBit w).toNat : ℕ)) * (32 ^ i : ℕ)) • G) := by
  have hneg := negBit_eq hw
  have hmag := magnitude_eq hw
  have hle : (magnitude w).toNat ≤ 16 := by
    rw [hmag]
    split_ifs <;> omega
  have hmem : table.getD i [] ∈ table := by
    rw [List.getD_eq_getElem _ _ (ht.rows ▸ hi)]
    exact List.getElem_mem _
  have hsame : sameChoice (magnitude w).toUInt32 0 = true ↔ (magnitude w).toNat = 0 := by
    rw [sameChoice_iff (by rw [UInt8.toNat_toUInt32]; omega) (by decide), ← UInt32.toNat_inj,
      UInt8.toNat_toUInt32]
    rfl
  obtain h0 | hpos := Nat.eq_zero_or_pos (magnitude w).toNat
  · have hdigit : (w.toNat : ℤ) - (32 * (negBit w).toNat : ℕ) = 0 := by
      rw [hneg]
      rw [hmag] at h0
      split_ifs at h0 ⊢ <;> omega
    rw [hdigit, zero_mul, zero_zsmul]
    exact hsame.mpr h0
  · have hinf : sameChoice (magnitude w).toUInt32 0 = false := by
      rw [Bool.eq_false_iff, ne_eq, hsame]
      omega
    have hentry := ht.multiple i hi ((magnitude w).toNat - 1) (by omega)
    rw [Nat.sub_add_cancel hpos, ← lookup_eq (ht.entries _ hmem) hpos hle] at hentry
    rw [hinf]
    by_cases hsign : 16 < w.toNat
    · rw [if_pos hsign] at hneg hmag
      have hone : (negBit w == 1) = true := by
        rw [beq_iff_eq]
        exact UInt8.toNat_inj.mp hneg
      have hdigit : ((w.toNat : ℤ) - (32 * (negBit w).toNat : ℕ)) * (32 ^ i : ℕ) =
          -(((magnitude w).toNat * 32 ^ i : ℕ) : ℤ) := by
        rw [hneg, hmag]
        push_cast [Nat.cast_sub hw]
        ring
      rw [if_pos hone, hdigit, neg_zsmul, natCast_zsmul]
      exact hentry.neg h
    · rw [if_neg hsign] at hneg hmag
      have hone : ¬(negBit w == 1) = true := by
        rw [beq_iff_eq]
        intro h1
        rw [h1] at hneg
        exact absurd hneg (by decide)
      have hdigit : ((w.toNat : ℤ) - (32 * (negBit w).toNat : ℕ)) * (32 ^ i : ℕ) =
          (((magnitude w).toNat * 32 ^ i : ℕ) : ℤ) := by
        rw [hneg, hmag]
        push_cast
        ring
      rw [if_neg hone, hdigit, natCast_zsmul]
      exact hentry

theorem stands_tableStep (h : CurveFor φ C a b) {table : GeneratorTable K}
    {G : (curve a b).Point} (ht : TableFor φ table G) {k : ℕ} (hk : k < 2 ^ 256) {i : ℕ}
    (hi : i < 52) {s : ProjectivePoint K × UInt8} (hcarry : s.2.toNat ≤ 1)
    (hs : Stands φ s.1 (upTo 32 k i s.2.toNat • G)) :
    (tableStep C (leBytes k) s (table.getD i [], i)).2.toNat ≤ 1 ∧
      Stands φ (tableStep C (leBytes k) s (table.getD i [], i)).1
        (upTo 32 k (i + 1) (tableStep C (leBytes k) s (table.getD i [], i)).2.toNat • G) := by
  have hwin := window_eq k hk hi
  have hw : (window (leBytes k) i + s.2).toNat = k / 32 ^ i % 32 + s.2.toNat := by
    rw [UInt8.toNat_add, hwin]
    omega
  have hle : (window (leBytes k) i + s.2).toNat ≤ 32 := by omega
  have hdigit := standsAffine_digit h.toStandsFor ht hi hle
  refine ⟨?_, ?_⟩
  · change (negBit _).toNat ≤ 1
    rw [negBit_eq hle]
    split_ifs <;> omega
  · have hsum := hs.addMixed h hdigit
    rw [← add_zsmul, hw, ← upTo_succ] at hsum
    exact hsum

theorem no_carry {k : ℕ} (hk : k < 2 ^ 256) {s : ProjectivePoint K × UInt8} (hs : s.2.toNat ≤ 1)
    (row : List (K × K)) : (tableStep C (leBytes k) s (row, 51)).2.toNat = 0 := by
  have hwin := window_eq k hk (show 51 < 52 by omega)
  have htop : k / 32 ^ 51 < 2 :=
    Nat.div_lt_of_lt_mul (by rwa [show 32 ^ 51 * 2 = 2 ^ 256 by rfl])
  have hw : (window (leBytes k) 51 + s.2).toNat ≤ 2 := by
    rw [UInt8.toNat_add, hwin]
    omega
  change (negBit (window (leBytes k) 51 + s.2)).toNat = 0
  rw [negBit_eq (by omega), if_neg (by omega)]

/-- **The table's multiply**, by every scalar. -/
theorem stands_mulByTable (h : CurveFor φ C a b) {table : GeneratorTable K}
    {G : (curve a b).Point} (ht : TableFor φ table G) {k : ℕ} (hk : k < 2 ^ 256) :
    Stands φ (mulByTable C table k) (k • G) := by
  have hloop := zipIdx_loop (f := tableStep C (leBytes k)) (l := table) (m := 0)
    (I := fun i s => s.2.toNat ≤ 1 ∧ Stands φ s.1 (upTo 32 k i s.2.toNat • G) ∧
      (i = 52 → s.2.toNat = 0))
    (fun i hi s hs => by
      rw [Nat.zero_add, ← List.getD_eq_getElem table [] hi]
      have hi' : i < 52 := ht.rows ▸ hi
      rw [Nat.zero_add] at hs
      obtain ⟨hcarry, hstands⟩ := stands_tableStep h ht hk hi' hs.1 hs.2.1
      refine ⟨hcarry, hstands, fun h52 => ?_⟩
      obtain rfl : i = 51 := by omega
      exact no_carry hk hs.1 _)
    (s := (IDENTITY, 0)) ⟨Nat.zero_le 1, by
      change Stands φ IDENTITY (upTo 32 k 0 0 • G)
      rw [upTo_zero, zero_zsmul]
      exact stands_identity h.toStandsFor, by omega⟩
  obtain ⟨-, hstands, hzero⟩ := hloop
  rw [Nat.zero_add, ht.rows] at hstands hzero
  rw [hzero rfl, upTo_of_lt (hk.trans (by decide)), natCast_zsmul] at hstands
  exact hstands

end EspMid.P256.Multiply
