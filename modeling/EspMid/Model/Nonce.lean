import EspMid.Model.Core

/-! # The nonce window

The last `N` nonces seen, in an array with a length and a cursor: the replay defence for control
frames. -/

namespace EspMid.Model.Nonce

open EspMid.Model.Core

/-- Remembers the last `N` nonces seen. -/
structure NonceWindow (N : ℕ) where
  seen : List.Vector (Array8 32) N
  len : ℕ
  next : ℕ
  len_le : len ≤ N
  next_lt : 0 < N → next < N

namespace NonceWindow

variable {N : ℕ}

/-- An empty window. -/
def new (N : ℕ) : NonceWindow N where
  seen := List.Vector.replicate N (List.Vector.replicate 32 0)
  len := 0
  next := 0
  len_le := Nat.zero_le N
  next_lt := id

/-- The nonce has been seen and is still in the window. -/
def contains (w : NonceWindow N) (nonce : Array8 32) : Bool :=
  (w.seen.toList.take w.len).any fun n => n == nonce

/-- Write the nonce at the cursor, and move on. -/
def record (w : NonceWindow N) (hN : 0 < N) (nonce : Array8 32) : NonceWindow N where
  seen := w.seen.set ⟨w.next, w.next_lt hN⟩ nonce
  next := (w.next + 1) % N
  len := if w.len < N then w.len + 1 else w.len
  len_le := by
    have := w.len_le
    split_ifs <;> omega
  next_lt := fun _ => Nat.mod_lt _ hN

/-- Record the nonce; `false`, and nothing recorded, where it was already seen. -/
def checkAndInsert (w : NonceWindow N) (nonce : Array8 32) : Bool × NonceWindow N :=
  if h : N = 0 ∨ w.contains nonce then (false, w)
  else (true, w.record (Nat.pos_of_ne_zero fun h0 => h (Or.inl h0)) nonce)

/-- Forget everything. -/
def clear (w : NonceWindow N) : NonceWindow N :=
  { w with len := 0, next := 0, len_le := Nat.zero_le N, next_lt := id }

end NonceWindow

end EspMid.Model.Nonce
