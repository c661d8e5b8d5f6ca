import EspMid.Model.Field32

/-! # Reduction modulo the order on 32-bit words

`vendor/p256/src/arithmetic/scalar/scalar32.rs`. Its `mac32` and `sbb32` are the base field's, word
for word, and so are the steps made of them. -/

namespace EspMid.Model.Scalar32

open EspMid.Lib.Limbs EspMid.Model.Field32

/-- The order's words. -/
def MODULUS : List UInt32 :=
  [0xFC632551, 0xF3B9CAC2, 0xA7179E84, 0xBCE6FAAD, 0xFFFFFFFF, 0xFFFFFFFF, 0x00000000, 0xFFFFFFFF]

/-- `floor(2^512 / n)` in nine words. -/
def MU32 : List UInt32 :=
  [0xEEDF9BFE, 0x012FFD85, 0xDF1A6C21, 0x43190552, 0xFFFFFFFF, 0xFFFFFFFE, 0xFFFFFFFF, 0x00000000,
    0x00000001]

/-- The order's words and a zero: `nj = if j < 8 { n[j] } else { 0 }`. -/
def nineN : List UInt32 := MODULUS ++ [0]

/-- Nine words less `n` when that does not go below zero. -/
def subtractNIfNecessary (r : List UInt32) : List UInt32 :=
  let w := carry sbbStep (r.zip nineN) 0
  (r.zip w.1).map fun z => (z.1 &&& w.2) ||| (z.2 &&& ~~~w.2)

/-- Row `i` of `q1 * mu`, its carry in `q2[i + 9]`. -/
def q2Row (q1 q2 : List UInt32) (i : ℕ) : List UInt32 := macRow (q1.getD i 0) q2 i MU32

/-- Row `i` of `q3 * n`, cut off at nine words. -/
def r2Row (q3 r2 : List UInt32) (i : ℕ) : List UInt32 :=
  patch r2 i (carry (macStep (q3.getD i 0)) ((window r2 i (9 - i)).zip (nineN.take (9 - i))) 0).1

/-- Barrett reduction of the 512-bit `hi:lo` modulo `n`. -/
def barrettReduce (lo hi : List UInt32) : List UInt32 :=
  let a := lo ++ hi
  let q2 := (List.range 9).foldl (q2Row (a.drop 7)) (List.replicate 18 0)
  let r2 := (List.range 9).foldl (r2Row (q2.drop 9)) (List.replicate 9 0)
  let r := (carry sbbStep ((a.take 9).zip r2) 0).1
  (subtractNIfNecessary (subtractNIfNecessary r)).take 8

end EspMid.Model.Scalar32
