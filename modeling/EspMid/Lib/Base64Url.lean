import Mathlib.Data.List.Basic

/-! # Unpadded base64url

Three bytes are written as four symbols of six bits; one or two bytes at the end as two or three
symbols whose unused low bits are zero. `decode` accepts exactly that: no padding, no other
alphabet, no length of `1` modulo `4`, and no nonzero unused bits. -/

namespace EspMid.Lib.Base64Url

/-- The symbol of a six-bit value. -/
def symbol (i : ℕ) : Char :=
  if i < 26 then Char.ofNat (65 + i)
  else if i < 52 then Char.ofNat (71 + i)
  else if i < 62 then Char.ofNat (i - 4)
  else if i = 62 then '-' else '_'

/-- The six-bit value of a symbol. -/
def sextet (c : Char) : Option ℕ :=
  if 65 ≤ c.toNat ∧ c.toNat ≤ 90 then some (c.toNat - 65)
  else if 97 ≤ c.toNat ∧ c.toNat ≤ 122 then some (c.toNat - 71)
  else if 48 ≤ c.toNat ∧ c.toNat ≤ 57 then some (c.toNat + 4)
  else if c = '-' then some 62
  else if c = '_' then some 63
  else none

theorem sextet_symbol : ∀ i < 64, sextet (symbol i) = some i := by decide

/-- Write bytes as symbols. -/
def encode : List UInt8 → List Char
  | [] => []
  | [a] => [symbol (a.toNat / 4), symbol (a.toNat % 4 * 16)]
  | [a, b] =>
    [symbol (a.toNat / 4), symbol (a.toNat % 4 * 16 + b.toNat / 16), symbol (b.toNat % 16 * 4)]
  | a :: b :: c :: rest =>
    symbol (a.toNat / 4) :: symbol (a.toNat % 4 * 16 + b.toNat / 16) ::
      symbol (b.toNat % 16 * 4 + c.toNat / 64) :: symbol (c.toNat % 64) :: encode rest

/-- Read symbols back. -/
def decode : List Char → Option (List UInt8)
  | [] => some []
  | [_] => none
  | [c₀, c₁] => do
    let x ← sextet c₀
    let y ← sextet c₁
    if y % 16 = 0 then some [UInt8.ofNat (x * 4 + y / 16)] else none
  | [c₀, c₁, c₂] => do
    let x ← sextet c₀
    let y ← sextet c₁
    let z ← sextet c₂
    if z % 4 = 0 then
      some [UInt8.ofNat (x * 4 + y / 16), UInt8.ofNat (y % 16 * 16 + z / 4)]
    else none
  | c₀ :: c₁ :: c₂ :: c₃ :: rest => do
    let x ← sextet c₀
    let y ← sextet c₁
    let z ← sextet c₂
    let w ← sextet c₃
    let tail ← decode rest
    some (UInt8.ofNat (x * 4 + y / 16) :: UInt8.ofNat (y % 16 * 16 + z / 4) ::
      UInt8.ofNat (z % 4 * 64 + w) :: tail)

theorem ofNat_eq {a : UInt8} {n : ℕ} (h : n = a.toNat) : UInt8.ofNat n = a := by
  rw [h, UInt8.ofNat_toNat]

/-- **Round trip.** -/
theorem decode_encode (l : List UInt8) : decode (encode l) = some l := by
  induction l using encode.induct with
  | case1 => rfl
  | case2 a =>
    have ha := a.toNat_lt
    simp only [encode, decode, sextet_symbol _ (show a.toNat / 4 < 64 by omega),
      sextet_symbol _ (show a.toNat % 4 * 16 < 64 by omega), Option.bind_eq_bind,
      Option.bind_some]
    rw [if_pos (by omega), ofNat_eq (a := a) (by omega)]
  | case3 a b =>
    have ha := a.toNat_lt
    have hb := b.toNat_lt
    simp only [encode, decode, sextet_symbol _ (show a.toNat / 4 < 64 by omega),
      sextet_symbol _ (show a.toNat % 4 * 16 + b.toNat / 16 < 64 by omega),
      sextet_symbol _ (show b.toNat % 16 * 4 < 64 by omega), Option.bind_eq_bind,
      Option.bind_some]
    rw [if_pos (by omega), ofNat_eq (a := a) (by omega), ofNat_eq (a := b) (by omega)]
  | case4 a b c rest ih =>
    have ha := a.toNat_lt
    have hb := b.toNat_lt
    have hc := c.toNat_lt
    simp only [encode, decode, sextet_symbol _ (show a.toNat / 4 < 64 by omega),
      sextet_symbol _ (show a.toNat % 4 * 16 + b.toNat / 16 < 64 by omega),
      sextet_symbol _ (show b.toNat % 16 * 4 + c.toNat / 64 < 64 by omega),
      sextet_symbol _ (show c.toNat % 64 < 64 by omega), ih, Option.bind_eq_bind,
      Option.bind_some]
    rw [ofNat_eq (a := a) (by omega), ofNat_eq (a := b) (by omega), ofNat_eq (a := c) (by omega)]

theorem encode_injective : Function.Injective encode := by
  intro l l' h
  have h' := congrArg decode h
  rw [decode_encode, decode_encode] at h'
  exact Option.some.inj h'

theorem sextet_of_mem_encode (l : List UInt8) : ∀ c ∈ encode l, (sextet c).isSome := by
  have hsym : ∀ i < 64, (sextet (symbol i)).isSome := by
    intro i hi
    rw [sextet_symbol i hi]
    rfl
  induction l using encode.induct with
  | case1 => simp [encode]
  | case2 a =>
    have ha := a.toNat_lt
    simp only [encode, List.mem_cons, List.not_mem_nil, or_false, forall_eq_or_imp, forall_eq]
    exact ⟨hsym _ (by omega), hsym _ (by omega)⟩
  | case3 a b =>
    have ha := a.toNat_lt
    have hb := b.toNat_lt
    simp only [encode, List.mem_cons, List.not_mem_nil, or_false, forall_eq_or_imp, forall_eq]
    exact ⟨hsym _ (by omega), hsym _ (by omega), hsym _ (by omega)⟩
  | case4 a b c rest ih =>
    have ha := a.toNat_lt
    have hb := b.toNat_lt
    have hc := c.toNat_lt
    simp only [encode, List.mem_cons, forall_eq_or_imp]
    exact ⟨hsym _ (by omega), hsym _ (by omega), hsym _ (by omega), hsym _ (by omega), ih⟩

example : encode [0x7b, 0x22] = ['e', 'y', 'I'] := by decide

end EspMid.Lib.Base64Url
