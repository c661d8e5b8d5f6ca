import Mathlib.Order.WithBot
import Mathlib.Order.Monotone.Basic

/-! # Trust on first use

A holder keeps nothing, or a pin: a key, and the version of what was last accepted under it.
Whatever is offered first is trusted; later offers follow only under the same key and at no lower
version. With nothing below every pin, and a pin below those of its key at no lower version, an
offer follows what is held when it lies above it. A history in which every holding is kept, or
replaced by an offer that follows, is monotone (`History.mono`): the key never changes once it is
held, the version never decreases, and an offer accepted later lies above those accepted before. -/

namespace EspMid.Lib.Pinning

/-- A key, and the version of what was last accepted under it. -/
structure Pin (κ ν : Type) where
  key : κ
  version : ν
  deriving DecidableEq

/-- Nothing, or a pin. -/
abbrev Held (κ ν : Type) := WithBot (Pin κ ν)

variable {κ ν : Type} [Preorder ν]

instance : Preorder (Pin κ ν) where
  le p q := p.key = q.key ∧ p.version ≤ q.version
  le_refl p := ⟨rfl, le_rfl⟩
  le_trans p q r hpq hqr := ⟨hpq.1.trans hqr.1, hpq.2.trans hqr.2⟩

theorem le_iff {p q : Pin κ ν} : p ≤ q ↔ p.key = q.key ∧ p.version ≤ q.version := Iff.rfl

/-- What is held next: the same, or an offer that follows. -/
def Next (h h' : Held κ ν) : Prop := h' = h ∨ ∃ p : Pin κ ν, h ≤ p ∧ h' = p

theorem Next.le {h h' : Held κ ν} (hn : Next h h') : h ≤ h' := by
  rcases hn with rfl | ⟨p, hp, rfl⟩
  · exact le_rfl
  · exact hp

/-- What is held from step to step. -/
def History (h : ℕ → Held κ ν) : Prop := ∀ i, Next (h i) (h (i + 1))

namespace History

variable {h : ℕ → Held κ ν} {i j : ℕ} {p q : Pin κ ν}

theorem mono (hh : History h) : Monotone h := monotone_nat_of_le_succ fun i => (hh i).le

/-- A key once held is held ever after, at versions that do not decrease. -/
theorem key_held (hh : History h) (hij : i ≤ j) (hp : h i = p) :
    ∃ q : Pin κ ν, h j = q ∧ p.key = q.key ∧ p.version ≤ q.version := by
  have hle : (p : Held κ ν) ≤ h j := hp ▸ hh.mono hij
  obtain ⟨q, hq, hpq⟩ := WithBot.coe_le_iff.mp hle
  exact ⟨q, hq, hpq⟩

theorem le_accepted (hh : History h) (hij : i ≤ j) (hp : h i = p) (hq : h j ≤ q) : p ≤ q := by
  have hle : (p : Held κ ν) ≤ q := (hp ▸ hh.mono hij).trans hq
  exact WithBot.coe_le_coe.mp hle

end History

end EspMid.Lib.Pinning
