import Mathlib.Algebra.BigOperators.Group.List.Basic
import Mathlib.Data.List.Prime
import Mathlib.FieldTheory.Finite.Basic
import Mathlib.Tactic.NormNum.Prime

/-! # Primes from part of a factorization

A number `N` is prime if primes whose product `F` exceeds its root divide `N - 1` and a base has an
order modulo every prime factor of `N` that all of them divide: then `F` divides one less than each
prime factor of `N`, and a composite number has a factor at most its root. The test is a Boolean
the kernel evaluates (`check`), with powers by squaring. -/

namespace EspMid.Lib.Pocklington

/-- `a ^ e` modulo `N` by squaring, over the low `bits` bits of the exponent. -/
def powMod (N : ℕ) : ℕ → ℕ → ℕ → ℕ
  | 0, _, _ => 1
  | bits + 1, a, e =>
    let rest := powMod N bits (a * a % N) (e / 2)
    if e % 2 = 1 then a * rest % N else rest

theorem powMod_modEq (N bits : ℕ) {a e : ℕ} (he : e < 2 ^ bits) :
    powMod N bits a e ≡ a ^ e [MOD N] := by
  induction bits generalizing a e with
  | zero =>
    obtain rfl : e = 0 := by simpa using he
    rfl
  | succ bits ih =>
    have hrest := ih (a := a * a % N) (e := e / 2) (by omega)
    have hsq : (a * a % N) ^ (e / 2) ≡ a ^ (2 * (e / 2)) [MOD N] := by
      rw [pow_mul, pow_two]
      exact (Nat.mod_modEq _ N).pow _
    unfold powMod
    simp only
    split_ifs with hodd
    · have hsplit : a ^ e = a * a ^ (2 * (e / 2)) := by
        rw [← pow_succ']
        congr 1
        omega
      rw [hsplit]
      exact (Nat.mod_modEq _ N).trans ((hrest.trans hsq).mul_left a)
    · have hsplit : e = 2 * (e / 2) := by omega
      rw [hsplit]
      simpa using hrest.trans hsq

/-- The primes `qs` show `N` prime with the base `a`. -/
def check (N bits a : ℕ) (qs : List ℕ) : Bool :=
  decide (1 < N) && decide (N ≤ 2 ^ bits) && decide (N < qs.prod * qs.prod) &&
    decide ((N - 1) % qs.prod = 0) && decide (powMod N bits a (N - 1) % N = 1) &&
    qs.all fun q => decide (Nat.gcd (powMod N bits a ((N - 1) / q) + (N - 1)) N = 1)

/-- Where a base has order `e` with `e ∣ q * k` and `e ∤ k`, the prime `q` divides `e`. -/
theorem dvd_of_dvd_mul {q k e : ℕ} (hq : q.Prime) (h : e ∣ q * k) (hk : ¬ e ∣ k) : q ∣ e := by
  by_contra hqe
  have hco : Nat.Coprime e q := ((Nat.Prime.coprime_iff_not_dvd hq).mpr hqe).symm
  exact hk (hco.dvd_of_dvd_mul_left h)

theorem dvd_sub_one {N a q r : ℕ} (hN : 1 < N) (hq : q.Prime) (hqN : q ∣ N - 1)
    (hpow : a ^ (N - 1) ≡ 1 [MOD N]) (hco : Nat.gcd (a ^ ((N - 1) / q) + (N - 1)) N = 1)
    (hr : r.Prime) (hrN : r ∣ N) : q ∣ r - 1 := by
  have : Fact r.Prime := ⟨hr⟩
  have hone : (a : ZMod r) ^ (N - 1) = 1 := by
    have := (ZMod.natCast_eq_natCast_iff _ _ _).mpr (hpow.of_dvd hrN)
    simpa using this
  have hne : (a : ZMod r) ^ ((N - 1) / q) ≠ 1 := by
    intro h
    have hcast : ((a ^ ((N - 1) / q) + (N - 1) : ℕ) : ZMod r) = 0 := by
      have hzero : ((N : ℕ) : ZMod r) = 0 := (ZMod.natCast_eq_zero_iff N r).mpr hrN
      push_cast [Nat.cast_sub hN.le]
      rw [h, hzero]
      ring
    have hdvd := Nat.dvd_gcd ((ZMod.natCast_eq_zero_iff _ r).mp hcast) hrN
    rw [hco] at hdvd
    exact hr.one_lt.ne' (Nat.dvd_one.mp hdvd)
  have ha : (a : ZMod r) ≠ 0 := by
    intro h0
    rw [h0, zero_pow (by omega)] at hone
    exact zero_ne_one hone
  refine (dvd_of_dvd_mul hq ?_ (fun h => hne (orderOf_dvd_iff_pow_eq_one.mp h))).trans
    (ZMod.orderOf_dvd_card_sub_one ha)
  rw [Nat.mul_div_cancel' hqN]
  exact orderOf_dvd_of_pow_eq_one hone

theorem prod_dvd {qs : List ℕ} (hprime : ∀ q ∈ qs, q.Prime) (hnodup : qs.Nodup) {k : ℕ}
    (h : ∀ q ∈ qs, q ∣ k) : qs.prod ∣ k := by
  induction qs with
  | nil => simp
  | cons q qs ih =>
    obtain ⟨hq, hqs⟩ := List.nodup_cons.mp hnodup
    have hrest := ih (fun x hx => hprime x (List.mem_cons_of_mem q hx)) hqs
      fun x hx => h x (List.mem_cons_of_mem q hx)
    rw [List.prod_cons]
    refine Nat.Coprime.mul_dvd_of_dvd_of_dvd ?_ (h q List.mem_cons_self) hrest
    refine (Nat.Prime.coprime_iff_not_dvd (hprime q List.mem_cons_self)).mpr fun hdvd => hq ?_
    exact mem_list_primes_of_dvd_prod (hprime q List.mem_cons_self).prime
      (fun x hx => (hprime x (List.mem_cons_of_mem q hx)).prime) hdvd

/-- **A number that passes the test is prime.** -/
theorem prime_of_check {N : ℕ} (bits a : ℕ) (qs : List ℕ) (hprime : ∀ q ∈ qs, q.Prime)
    (hnodup : qs.Nodup) (h : check N bits a qs = true) : N.Prime := by
  simp only [check, Bool.and_eq_true, decide_eq_true_eq, List.all_eq_true] at h
  obtain ⟨⟨⟨⟨⟨hN, hbits⟩, hbig⟩, hmod⟩, hpow⟩, hco⟩ := h
  have hdvd : qs.prod ∣ N - 1 := Nat.dvd_of_mod_eq_zero hmod
  have hfull : a ^ (N - 1) ≡ 1 [MOD N] := by
    have := powMod_modEq N bits (a := a) (e := N - 1) (by omega)
    refine this.symm.trans ?_
    rw [Nat.ModEq, hpow, Nat.mod_eq_of_lt hN]
  rw [Nat.prime_def_le_sqrt]
  refine ⟨hN, fun m hm hsqrt hmN => ?_⟩
  -- a prime factor of a proper factor is above the product
  obtain ⟨r, hr, hrm⟩ := Nat.exists_prime_and_dvd (show m ≠ 1 by omega)
  have hprod : qs.prod ∣ r - 1 := by
    refine prod_dvd hprime hnodup fun q hq => ?_
    have hqN : q ∣ N - 1 := (List.dvd_prod hq).trans hdvd
    have hle : (N - 1) / q < 2 ^ bits := by
      have := Nat.div_le_self (N - 1) q
      omega
    refine dvd_sub_one hN (hprime q hq) hqN hfull ?_ hr (hrm.trans hmN)
    have hmodEq := (powMod_modEq N bits (a := a) hle).add_right (N - 1)
    rw [← hmodEq.gcd_eq]
    exact hco q hq
  have hle := Nat.le_of_dvd (Nat.sub_pos_of_lt hr.one_lt) hprod
  have hrle : r ≤ m := Nat.le_of_dvd (by omega) hrm
  have hsq : m * m ≤ N := Nat.le_sqrt.mp hsqrt
  have : qs.prod * qs.prod ≤ m * m := Nat.mul_le_mul (by omega) (by omega)
  omega

end EspMid.Lib.Pocklington
