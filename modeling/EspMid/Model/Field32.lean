import EspMid.Lib.Words

/-! # Base field arithmetic on 32-bit limbs

`vendor/p256/src/arithmetic/field/field32.rs`. A raw field element is eight words, low word first;
every loop of the source up the limbs with a carry is `carry` of its step. -/

namespace EspMid.Model.Field32

open EspMid.Lib.Limbs

/-- Raw field element: `[u32; 8]`. -/
abbrev Fe := List UInt32

/-- The modulus' limbs: `2^256 - 2^224 + 2^192 + 2^96 - 1`. -/
def P : Fe :=
  [0xFFFFFFFF, 0xFFFFFFFF, 0xFFFFFFFF, 0, 0, 0, 1, 0xFFFFFFFF]

/-- `R^2 = 2^512 mod p`. -/
def R_2 : Fe :=
  [0x00000003, 0x00000000, 0xFFFFFFFF, 0xFFFFFFFB, 0xFFFFFFFE, 0xFFFFFFFF, 0xFFFFFFFD, 0x00000004]

/-- `acc + a * b + carry` as (low, high) words. -/
def mac32 (acc a b carry : UInt32) : UInt32 × UInt32 :=
  let w := acc.toUInt64 + a.toUInt64 * b.toUInt64 + carry.toUInt64
  (w.toUInt32, (w >>> 32).toUInt32)

/-- `a + b + carry` as (sum, carry). -/
def adc32 (a b carry : UInt32) : UInt32 × UInt32 :=
  let w := a.toUInt64 + b.toUInt64 + carry.toUInt64
  (w.toUInt32, (w >>> 32).toUInt32)

/-- `a - b - borrow`, the borrow zero or all ones, in and out. -/
def sbb32 (a b borrow : UInt32) : UInt32 × UInt32 :=
  let w := a.toUInt64 - (b.toUInt64 + (borrow >>> 31).toUInt64)
  (w.toUInt32, (w >>> 32).toUInt32)

/-- A step of `adc32` up two lists of limbs. -/
def adcStep (z : UInt32 × UInt32) (c : UInt32) : UInt32 × UInt32 := adc32 z.1 z.2 c

/-- A step of `sbb32` up two lists of limbs. -/
def sbbStep (z : UInt32 × UInt32) (b : UInt32) : UInt32 × UInt32 := sbb32 z.1 z.2 b

/-- A step of `mac32` up the accumulator and the limbs that `k` multiplies. -/
def macStep (k : UInt32) (z : UInt32 × UInt32) (c : UInt32) : UInt32 × UInt32 := mac32 z.1 z.2 k c

/-- `P[j] & mask`. -/
def maskedP (mask : UInt32) : Fe := P.map (· &&& mask)

/-- Nine limbs less the modulus when that does not go below zero. -/
def subP (t : List UInt32) : Fe :=
  let w := carry sbbStep ((t.take 8).zip P) 0
  let borrow := (sbb32 (t.getD 8 0) 0 w.2).2
  (carry adcStep (w.1.zip (maskedP borrow)) 0).1

/-- `a + b mod p`. -/
def feAdd (a b : Fe) : Fe :=
  let t := carry adcStep (a.zip b) 0
  subP (t.1 ++ [t.2])

/-- `a - b mod p`. -/
def feSub (a b : Fe) : Fe :=
  let w := carry sbbStep (a.zip b) 0
  (carry adcStep (w.1.zip (maskedP w.2)) 0).1

/-- `-w mod p`. -/
def feNeg (w : Fe) : Fe := feSub (List.replicate 8 0) w

/-! ### The reduction of a round

`m * p` is added with no multiply: word 0 leaves the carry `m`, and the words above are all ones
(`m_ff = m * 0xFFFF_FFFF`), zero or one. -/

/-- `m * 0xFFFF_FFFF`. -/
def mFf (m : UInt32) : UInt64 := (m.toUInt64 <<< 32) - m.toUInt64

/-- Words 1 to 7 of `m * p`. -/
def mP (m : UInt32) : List UInt64 := [mFf m, mFf m, 0, 0, 0, m.toUInt64, mFf m]

/-- `w = t[k] + addend + (w >> 32)`, the low word kept. -/
def wideStep (z : UInt32 × UInt64) (c : UInt64) : UInt32 × UInt64 :=
  let w := z.1.toUInt64 + z.2 + c
  (w.toUInt32, w >>> 32)

/-- `+ m * p` on the ten words of a round, shifted down a word. `t[9]` is left out of the nine words
that come out: the source leaves it, and the next round writes it before it reads it. -/
def reduceRound (t : List UInt32) : List UInt32 :=
  let m := t.getD 0 0
  let r := carry wideStep ((window t 1 8).zip (mP m ++ [0])) m.toUInt64
  r.1 ++ [t.getD 9 0 + r.2.toUInt32]

/-- A round of the CIOS: a limb of `b` times `a`, and the reduction. -/
def mulRound (a : Fe) (t : List UInt32) (bi : UInt32) : List UInt32 :=
  let r := carry (macStep bi) ((t.take 8).zip a) 0
  let top := adc32 (t.getD 8 0) r.2 0
  reduceRound (r.1 ++ [top.1, top.2])

/-- The CIOS: `a * b mod p` (Montgomery: `a * b / R`). -/
def feMulRust (a b : Fe) : Fe := subP (b.foldl (mulRound a) (List.replicate 9 0))

/-! ### The square -/

/-- A row of a product: `k` times `xs` onto `t` from `i` on, the carry written above. -/
def macRow (k : UInt32) (t : List UInt32) (i : ℕ) (xs : List UInt32) : List UInt32 :=
  let r := carry (macStep k) ((window t i xs.length).zip xs) 0
  patch t i (r.1 ++ [r.2])

/-- Row `i` of the cross products: `a[i] * a[j]` for `j > i` onto `t[i + j]`, the carry to
`t[i + 8]`. -/
def crossRow (a : Fe) (t : List UInt32) (i : ℕ) : List UInt32 :=
  macRow (a.getD i 0) t (2 * i + 1) (a.drop (i + 1))

/-- A word doubled, the bit below it in. -/
def doubleStep (x carry : UInt32) : UInt32 × UInt32 :=
  (((x.toUInt64 <<< 1) ||| carry.toUInt64).toUInt32, x >>> 31)

/-- Words two by two. -/
def pairs : List UInt32 → List (UInt32 × UInt32)
  | x :: y :: t => (x, y) :: pairs t
  | _ => []

/-- `a[i]^2` onto `t[2 i]`, its carry onto `t[2 i + 1]`. -/
def squareStep (z : (UInt32 × UInt32) × UInt32) (c : UInt32) : (UInt32 × UInt32) × UInt32 :=
  let low := mac32 z.1.1 z.2 z.2 c
  let high := adc32 z.1.2 low.2 0
  ((low.1, high.1), high.2)

/-- A word up which a carry ripples. -/
def rippleStep (x c : UInt32) : UInt32 × UInt32 := adc32 x c 0

/-- A round of the reduction in place: `t += m * p * b^i` with `m = t[i]`. -/
def squareRound (t : List UInt32) (i : ℕ) : List UInt32 :=
  let m := t.getD i 0
  let r := carry wideStep ((window t (i + 1) 7).zip (mP m)) m.toUInt64
  let top := carry rippleStep (t.drop (i + 8)) r.2.toUInt32
  t.take (i + 1) ++ (r.1 ++ top.1)

/-- The words of the 512-bit square, the sixteen and the last carry. -/
def wideSquare (a : Fe) : List UInt32 :=
  let t := (List.range 7).foldl (crossRow a) (List.replicate 17 0)
  let doubled := carry doubleStep (t.take 16) 0
  let squared := carry squareStep ((pairs doubled.1).zip a) 0
  squared.1.flatMap (fun z => [z.1, z.2]) ++ [squared.2]

/-- The SOS: `a * a mod p` (Montgomery: `a^2 / R`). -/
def feSquareRust (a : Fe) : Fe :=
  subP (((List.range 8).foldl squareRound (wideSquare a)).drop 8)

/-- Out of the Montgomery domain. -/
def feFromMontgomery (w : Fe) : Fe := feMulRust w [1, 0, 0, 0, 0, 0, 0, 0]

/-- Into the Montgomery domain. -/
def feToMontgomery (w : Fe) : Fe := feMulRust w R_2

end EspMid.Model.Field32
