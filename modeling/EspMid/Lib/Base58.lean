import EspMid.Lib.BigEndian
import EspMid.Lib.Numeral

/-! # Base58 with the Bitcoin alphabet

A byte string is read as a number written in base 58; each leading zero byte is a leading `1`. Every
string of symbols is the encoding of one byte string (`decode_eq_some`): reading and writing are
numerals carried from base 256 to base 58 and back, with their leading zeros. -/

namespace EspMid.Lib.Base58

open EspMid.Lib.Numeral

/-- The symbols, in the order of their digits. -/
def alphabet : List Char :=
  "123456789ABCDEFGHJKLMNPQRSTUVWXYZabcdefghijkmnopqrstuvwxyz".toList

/-- The digit of a symbol. -/
def digit (c : Char) : Option ℕ := alphabet.idxOf? c

/-- The number a string of symbols writes. -/
def value (s : List Char) : Option ℕ :=
  s.foldlM (fun acc c => (digit c).map (acc * 58 + ·)) 0

/-- The bytes of a number, most significant first, without leading zeros. -/
def minimalBytes (n : ℕ) : List UInt8 := (Nat.digits 256 n).reverse.map UInt8.ofNat

/-- Read a base58 string, if every character is a symbol. -/
def decode (s : List Char) : Option (List UInt8) :=
  (value s).map fun n => List.replicate (s.takeWhile (· == '1')).length 0 ++ minimalBytes n

/-- The symbol of a digit. -/
def symbol (d : ℕ) : Char := alphabet.getD d '1'

/-- Write a byte string in base58. -/
def encode (b : List UInt8) : List Char :=
  List.replicate (b.takeWhile (· == 0)).length '1' ++
    (Nat.digits 58 (BigEndian.toNat b)).reverse.map symbol

/-! ### Symbols and digits -/

theorem digit_symbol : ∀ d < 58, digit (symbol d) = some d := by decide +kernel

theorem digit_eq_some {c : Char} {d : ℕ} : digit c = some d ↔ d < 58 ∧ symbol d = c := by
  constructor
  · intro h
    obtain ⟨hlt, hget, -⟩ := List.idxOf?_eq_some_iff.mp h
    have hlen : alphabet.length = 58 := by decide
    refine ⟨hlen ▸ hlt, ?_⟩
    unfold symbol
    rw [List.getD_eq_getElem?_getD, List.getElem?_eq_getElem hlt, hget, Option.getD_some]
  · rintro ⟨hlt, rfl⟩
    exact digit_symbol d hlt

theorem symbol_eq_one : ∀ d < 58, (symbol d == '1') = (d == 0) := by decide +kernel

theorem utf8Size_symbol : ∀ d < 58, (symbol d).utf8Size = 1 := by decide +kernel

/-- The digits of a byte string. -/
def bytesDigits (b : List UInt8) : List ℕ := b.map UInt8.toNat

theorem lt_of_mem_bytesDigits (b : List UInt8) : ∀ d ∈ bytesDigits b, d < 256 := by
  intro d hd
  obtain ⟨x, -, rfl⟩ := List.mem_map.mp hd
  exact x.toNat_lt

theorem map_ofNat_bytesDigits (b : List UInt8) : (bytesDigits b).map UInt8.ofNat = b := by
  unfold bytesDigits
  rw [List.map_map]
  exact List.map_id'' (fun x => UInt8.ofNat_toNat) b

theorem bytesDigits_map_ofNat {ds : List ℕ} (h : ∀ d ∈ ds, d < 256) :
    bytesDigits (ds.map UInt8.ofNat) = ds := by
  unfold bytesDigits
  rw [List.map_map]
  have hid : ∀ d ∈ ds, (UInt8.toNat ∘ UInt8.ofNat) d = id d := by
    intro d hd
    exact UInt8.toNat_ofNat_of_lt' (h d hd)
  rw [List.map_congr_left hid, List.map_id]

/-! ### Reading and writing as numerals -/

theorem foldl_eq_value (B : ℕ) (ds : List ℕ) :
    ds.foldl (fun acc d => acc * B + d) 0 = Numeral.value B ds := by
  unfold Numeral.value
  rw [Nat.ofDigits_eq_foldr, List.foldr_reverse]
  refine congrArg (fun f => ds.foldl f 0) ?_
  funext acc d
  simp only [Nat.cast_id]
  ring

theorem toNat_eq_value (b : List UInt8) :
    BigEndian.toNat b = Numeral.value 256 (bytesDigits b) := by
  rw [← foldl_eq_value]
  unfold BigEndian.toNat bytesDigits
  rw [List.foldl_map]

theorem foldlM_eq (s : List Char) : ∀ acc : ℕ,
    s.foldlM (fun acc c => (digit c).map (acc * 58 + ·)) acc =
      (s.mapM digit).map fun ds => ds.foldl (fun acc d => acc * 58 + d) acc := by
  induction s with
  | nil => exact fun acc => rfl
  | cons c s ih =>
    intro acc
    rw [List.foldlM_cons, List.mapM_cons]
    cases digit c with
    | none => rfl
    | some d =>
      refine (ih _).trans ?_
      cases s.mapM digit with
      | none => rfl
      | some ds => rfl

theorem value_eq (s : List Char) : value s = (s.mapM digit).map (Numeral.value 58) := by
  unfold value
  rw [foldlM_eq]
  exact congrArg (fun f => (s.mapM digit).map f) (funext (foldl_eq_value 58))

theorem mapM_digit_eq_some {s : List Char} {ds : List ℕ} :
    s.mapM digit = some ds ↔ (∀ d ∈ ds, d < 58) ∧ s = ds.map symbol := by
  induction s generalizing ds with
  | nil =>
    constructor
    · intro h
      cases h
      exact ⟨by simp, rfl⟩
    · rintro ⟨-, h⟩
      rw [List.map_eq_nil_iff.mp h.symm]
      rfl
  | cons c s ih =>
    rw [List.mapM_cons]
    simp only [Option.bind_eq_bind, Option.bind_eq_some_iff, Option.pure_def, Option.some.injEq,
      digit_eq_some, ih]
    constructor
    · rintro ⟨d, ⟨hd, rfl⟩, ds, ⟨hds, rfl⟩, rfl⟩
      exact ⟨List.forall_mem_cons.mpr ⟨hd, hds⟩, rfl⟩
    · rintro ⟨hlt, h⟩
      cases ds with
      | nil => cases h
      | cons d ds =>
        obtain ⟨hd, hds⟩ := List.forall_mem_cons.mp hlt
        obtain ⟨rfl, rfl⟩ := List.cons.inj h
        exact ⟨d, ⟨hd, rfl⟩, ds, ⟨hds, rfl⟩, rfl⟩

theorem ones_eq_zeros {ds : List ℕ} (h : ∀ d ∈ ds, d < 58) :
    ((ds.map symbol).takeWhile (· == '1')).length = zeros ds := by
  unfold zeros
  rw [List.takeWhile_map, List.length_map]
  refine congrArg List.length ?_
  induction ds with
  | nil => rfl
  | cons d ds ih =>
    obtain ⟨hd, hds⟩ := List.forall_mem_cons.mp h
    simp only [List.takeWhile_cons, Function.comp_apply, symbol_eq_one d hd, ih hds]

theorem zeroBytes_eq_zeros (b : List UInt8) :
    (b.takeWhile (· == 0)).length = zeros (bytesDigits b) := by
  have hzero : ((· == 0) ∘ UInt8.toNat : UInt8 → Bool) = (· == 0) := by
    funext x
    exact beq_eq_beq.mpr ⟨fun h => UInt8.toNat_inj.mp h, fun h => by rw [h]; rfl⟩
  unfold zeros bytesDigits
  rw [List.takeWhile_map, List.length_map, hzero]

/-- Reading is a change of base. -/
theorem decode_map_symbol {ds : List ℕ} (h : ∀ d ∈ ds, d < 58) :
    decode (ds.map symbol) =
      some ((spell 256 (zeros ds) (Numeral.value 58 ds)).map UInt8.ofNat) := by
  unfold decode minimalBytes spell
  rw [value_eq, mapM_digit_eq_some.mpr ⟨h, rfl⟩, ones_eq_zeros h]
  simp

/-- So is writing. -/
theorem encode_eq (b : List UInt8) :
    encode b =
      (spell 58 (zeros (bytesDigits b)) (Numeral.value 256 (bytesDigits b))).map symbol := by
  unfold encode spell
  rw [zeroBytes_eq_zeros, toNat_eq_value, List.map_append, List.map_replicate]
  rfl

/-! ### One string for one byte string -/

theorem decode_encode (b : List UInt8) : decode (encode b) = some b := by
  have hlt := fun d (hd : d ∈ spell 58 (zeros (bytesDigits b)) (Numeral.value 256 (bytesDigits b))) =>
    lt_of_mem_spell (by decide : 1 < 58) hd
  rw [encode_eq, decode_map_symbol hlt, zeros_spell, value_spell,
    spell_zeros_value (by decide) (lt_of_mem_bytesDigits b), map_ofNat_bytesDigits]

/-- **Reading accepts what writing writes, and nothing else.** -/
theorem decode_eq_some {s : List Char} {b : List UInt8} : decode s = some b ↔ encode b = s := by
  constructor
  · intro h
    obtain ⟨n, hn, hb⟩ := Option.map_eq_some_iff.mp h
    rw [value_eq] at hn
    obtain ⟨ds, hds, -⟩ := Option.map_eq_some_iff.mp hn
    obtain ⟨hlt, rfl⟩ := mapM_digit_eq_some.mp hds
    rw [decode_map_symbol hlt] at h
    cases h
    have hbytes := fun d (hd : d ∈ spell 256 (zeros ds) (Numeral.value 58 ds)) =>
      lt_of_mem_spell (by decide : 1 < 256) hd
    rw [encode_eq, bytesDigits_map_ofNat hbytes, zeros_spell, value_spell,
      spell_zeros_value (by decide) hlt]
  · rintro rfl
    exact decode_encode b

theorem encode_injective : Function.Injective encode := by
  intro b b' h
  have hb := decode_encode b
  rw [h, decode_encode] at hb
  exact (Option.some.inj hb).symm

theorem utf8Size_of_mem_encode (b : List UInt8) : ∀ c ∈ encode b, c.utf8Size = 1 := by
  intro c hc
  rw [encode_eq] at hc
  obtain ⟨d, hd, rfl⟩ := List.mem_map.mp hc
  exact utf8Size_symbol d (lt_of_mem_spell (by decide) hd)

theorem length_encode_le {b : List UInt8} {k : ℕ} (h : BigEndian.toNat b < 58 ^ k) :
    (encode b).length ≤ (b.takeWhile (· == 0)).length + k := by
  rw [encode_eq, List.length_map, zeroBytes_eq_zeros]
  rw [toNat_eq_value] at h
  exact length_spell_le (by decide) h

theorem lt_pow_length_encode (b : List UInt8) : BigEndian.toNat b < 58 ^ (encode b).length := by
  rw [encode_eq, List.length_map, toNat_eq_value]
  exact lt_pow_length_spell (by decide) _ _

theorem encode_ne_nil {b : List UInt8} (h : b ≠ []) : encode b ≠ [] := by
  intro hnil
  have hb := decode_encode b
  rw [hnil] at hb
  exact h (Option.some.inj hb).symm

end EspMid.Lib.Base58
