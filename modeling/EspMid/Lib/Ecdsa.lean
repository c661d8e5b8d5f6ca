import Mathlib.Algebra.Field.ZMod
import Mathlib.Algebra.Module.Basic
import Mathlib.Tactic.FieldSimp

/-! # ECDSA over a group of prime order

The signature equation over any module for the field of `n` elements, with a generator and a map
from the group to the field that does not see the sign of a point (the x-coordinate of a point on a
curve). A signature made with any nonce verifies under the key of its secret (`verifies_sign`), and
of a signature and its twin with the negated `s` both verify or neither does (`verifies_neg`). -/

namespace EspMid.Lib.Ecdsa

variable {n : ℕ} [Fact n.Prime] {G : Type} [AddCommGroup G] [Module (ZMod n) G]

/-- A generator, and what a signature keeps of a point. -/
structure Group (n : ℕ) (G : Type) [AddCommGroup G] [Module (ZMod n) G] where
  generator : G
  coordinate : G → ZMod n
  coordinate_neg : ∀ P, coordinate (-P) = coordinate P

variable (E : Group n G)

/-- The public key of a secret. -/
def publicKey (d : ZMod n) : G := d • E.generator

/-- The signature of `z` under the secret `d` with the nonce `k`. -/
def sign (d k z : ZMod n) : ZMod n × ZMod n :=
  let r := E.coordinate (k • E.generator)
  (r, k⁻¹ * (z + r * d))

/-- The signature equation. -/
def Verifies (Q : G) (z r s : ZMod n) : Prop :=
  r ≠ 0 ∧ s ≠ 0 ∧ E.coordinate ((z * s⁻¹) • E.generator + (r * s⁻¹) • Q) = r

/-- **A signature verifies** under the key of its secret. -/
theorem verifies_sign {d k z : ZMod n} (hr : (sign E d k z).1 ≠ 0) (hs : (sign E d k z).2 ≠ 0) :
    Verifies E (publicKey E d) z (sign E d k z).1 (sign E d k z).2 := by
  refine ⟨hr, hs, ?_⟩
  have hk : k ≠ 0 := by
    rintro rfl
    exact hs (by simp [sign])
  have hsum : z + E.coordinate (k • E.generator) * d ≠ 0 := by
    intro h0
    exact hs (by simp [sign, h0])
  -- the point that the verifier computes is the nonce's
  have hpoint : (z * (sign E d k z).2⁻¹) • E.generator +
      ((sign E d k z).1 * (sign E d k z).2⁻¹) • publicKey E d = k • E.generator := by
    unfold publicKey
    rw [smul_smul, ← add_smul]
    refine congrArg (· • E.generator) ?_
    unfold sign
    simp only
    field_simp
  rw [hpoint]
  rfl

/-- **A signature verifies exactly if its twin does.** -/
theorem verifies_neg (Q : G) (z r s : ZMod n) : Verifies E Q z r (-s) ↔ Verifies E Q z r s := by
  have hpoint : (z * (-s)⁻¹) • E.generator + (r * (-s)⁻¹) • Q =
      -((z * s⁻¹) • E.generator + (r * s⁻¹) • Q) := by
    rw [inv_neg, mul_neg, mul_neg, neg_smul, neg_smul, neg_add]
  unfold Verifies
  rw [hpoint, E.coordinate_neg, neg_ne_zero]

end EspMid.Lib.Ecdsa
