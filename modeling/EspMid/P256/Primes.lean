import EspMid.Lib.Pocklington
import EspMid.P256.Field

/-! # The field's modulus and the group's order are prime

Each by a chain of primes, every prime of it a large factor of one less than the next. -/

namespace EspMid.P256.Primes

open EspMid.Lib.Pocklington EspMid.P256.Field

/-- The order of the group. -/
def n : ℕ := 0xFFFFFFFF00000000FFFFFFFFFFFFFFFFBCE6FAADA7179E84F3B9CAC2FC632551

/-- The numbers of both chains, each with its bits and the primes that show it prime. -/
def chain : List (ℕ × ℕ × List ℕ) :=
  [(66417393611, 36, [3677, 197]),
   (11290956913871, 44, [66417393611]),
   (46076956964474543, 56, [704251, 78283]),
   (774023187263532362759620327192479577272145303, 150, [46076956964474543, 11290956913871]),
   (835945042244614951780389953367877943453916927241, 160,
     [774023187263532362759620327192479577272145303]),
   (p, 256, [835945042244614951780389953367877943453916927241]),
   (1002328039319, 40, [3969899]),
   (208150935158385979, 58, [191039911, 3023]),
   (2624747550333869278416773953, 92, [208150935158385979]),
   (n, 256, [2624747550333869278416773953, 1002328039319])]

theorem chain_ok : ∀ c ∈ chain, c.2.2.Nodup ∧ check c.1 c.2.1 2 c.2.2 = true := by decide +kernel

theorem prime_of_mem {N : ℕ} (bits : ℕ) (qs : List ℕ) (h : (N, bits, qs) ∈ chain)
    (hqs : ∀ q ∈ qs, q.Prime) : N.Prime :=
  prime_of_check bits 2 qs hqs (chain_ok _ h).1 (chain_ok _ h).2

/-! ### The chain of the modulus -/

theorem prime_of_36_bits : Nat.Prime 66417393611 :=
  prime_of_mem 36 [3677, 197]
    (by decide) (by norm_num)

theorem prime_of_44_bits : Nat.Prime 11290956913871 :=
  prime_of_mem 44 [66417393611]
    (by decide) (by simpa using prime_of_36_bits)

theorem prime_of_56_bits : Nat.Prime 46076956964474543 :=
  prime_of_mem 56 [704251, 78283]
    (by decide) (by norm_num)

theorem prime_of_150_bits : Nat.Prime 774023187263532362759620327192479577272145303 :=
  prime_of_mem 150 [46076956964474543, 11290956913871]
    (by decide) (by simpa using ⟨prime_of_56_bits, prime_of_44_bits⟩)

theorem prime_of_160_bits : Nat.Prime 835945042244614951780389953367877943453916927241 :=
  prime_of_mem 160 [774023187263532362759620327192479577272145303]
    (by decide) (by simpa using prime_of_150_bits)

/-- **The field's modulus is prime.** -/
theorem prime_p : Nat.Prime p :=
  prime_of_mem 256 [835945042244614951780389953367877943453916927241]
    (by decide) (by simpa using prime_of_160_bits)

/-! ### The chain of the order -/

theorem prime_of_40_bits : Nat.Prime 1002328039319 :=
  prime_of_mem 40 [3969899]
    (by decide) (by norm_num)

theorem prime_of_58_bits : Nat.Prime 208150935158385979 :=
  prime_of_mem 58 [191039911, 3023]
    (by decide) (by norm_num)

theorem prime_of_92_bits : Nat.Prime 2624747550333869278416773953 :=
  prime_of_mem 92 [208150935158385979]
    (by decide) (by simpa using prime_of_58_bits)

/-- **The order of the group is prime.** -/
theorem prime_n : Nat.Prime n :=
  prime_of_mem 256 [2624747550333869278416773953, 1002328039319]
    (by decide) (by simpa using ⟨prime_of_92_bits, prime_of_40_bits⟩)

instance : Fact p.Prime := ⟨prime_p⟩

instance : Fact n.Prime := ⟨prime_n⟩

end EspMid.P256.Primes
