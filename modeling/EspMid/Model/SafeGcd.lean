import EspMid.Model.Field32

/-! # The inversion by divsteps

`vendor/p256/src/arithmetic/safegcd.rs`, on eight words of a `U256`, the low word first. Arithmetic
on machine integers wraps; that it loses nothing is proved of it. -/

namespace EspMid.Model.SafeGcd

open EspMid.Lib.Limbs EspMid.Model.Field32

/-- Nine signed 30-bit limbs, little-endian. -/
abbrev S30 := List Int32

/-- The low thirty bits. -/
def M30 : Int32 := 0x3FFFFFFF

/-- The bits of the words from `30 i` on, 34 of them at least. -/
def bitsFrom (w : Fe) (i : ℕ) : UInt64 :=
  let bit := 30 * i
  let word := bit / 32
  let shift := bit % 32
  let v := (w.getD word 0).toUInt64 >>> UInt64.ofNat shift
  if word + 1 < 8 then
    v ||| ((w.getD (word + 1) 0).toUInt64 <<< UInt64.ofNat (32 - shift))
  else v

/-- Bits `30 i .. 30 i + 29` of the words, and all that is left for the last limb. -/
def limb30 (w : Fe) (i : ℕ) : Int32 :=
  let v := bitsFrom w i
  if i < 8 then (v.toUInt32 &&& M30.toUInt32).toInt32 else v.toUInt32.toInt32

/-- The limbs of eight words. -/
def toS30 (w : Fe) : S30 := (List.range 9).map (limb30 w)

/-- A limb onto the words. -/
def putLimb (a : S30) (w : Fe) (i : ℕ) : Fe :=
  let v := (a.getD i 0).toUInt32.toUInt64
  let bit := 30 * i
  let word := bit / 32
  let shift := bit % 32
  let x := v <<< UInt64.ofNat shift
  let w := w.modify word (· ||| x.toUInt32)
  if word + 1 < 8 then w.modify (word + 1) (· ||| (x >>> 32).toUInt32) else w

/-- The words of normalised limbs. -/
def fromS30 (a : S30) : Fe := (List.range 9).foldl (putLimb a) (List.replicate 8 0)

/-- A modulus and `modulus^-1 mod 2^30`. -/
structure ModInfo where
  modulus : S30
  inv30 : UInt32

/-- Newton: `x <- x (2 - m x)` doubles the correct low bits. -/
def newton (m0 x : UInt32) : UInt32 := x * (2 - m0 * x)

/-- For an odd modulus below `2^256`. -/
def ModInfo.new (modulus : Fe) : ModInfo :=
  let m := toS30 modulus
  let m0 := (m.getD 0 0).toUInt32
  { modulus := m, inv30 := (newton m0)^[5] m0 &&& M30.toUInt32 }

/-! ### Thirty steps -/

/-- The transition matrix, rows `(u, v)` and `(q, r)`, scaled by `2^30`. -/
structure Matrix where
  u : Int32
  v : Int32
  q : Int32
  r : Int32

/-- The variables of `divsteps_30`. -/
structure Steps where
  zeta : Int32
  f : UInt32
  g : UInt32
  u : UInt32
  v : UInt32
  q : UInt32
  r : UInt32

/-- A step without a branch. -/
def divstep (s : Steps) : Steps :=
  -- all ones when zeta < 0
  let c1 := (s.zeta >>> 31).toUInt32
  -- all ones when g is odd
  let c2 := -(s.g &&& 1)
  let x := (s.f ^^^ c1) - c1
  let y := (s.u ^^^ c1) - c1
  let z := (s.v ^^^ c1) - c1
  let g := s.g + (x &&& c2)
  let q := s.q + (y &&& c2)
  let r := s.r + (z &&& c2)
  let c1 := c1 &&& c2
  let zeta := (s.zeta ^^^ c1.toInt32) - 1
  let f := s.f + (g &&& c1)
  let u := s.u + (q &&& c1)
  let v := s.v + (r &&& c1)
  { zeta := zeta, f := f, g := g >>> 1, u := u <<< 1, v := v <<< 1, q := q, r := r }

/-- Thirty divsteps on the low limbs of `f` and `g`. -/
def divsteps30 (zeta : Int32) (f0 g0 : UInt32) : Int32 × Matrix :=
  let s := divstep^[30] { zeta := zeta, f := f0, g := g0, u := 1, v := 0, q := 0, r := 1 }
  (s.zeta, ⟨s.u.toInt32, s.v.toInt32, s.q.toInt32, s.r.toInt32⟩)

/-! ### A round -/

/-- `a x + b y` in 64 bits. -/
def row (a b x y : Int32) : Int64 := a.toInt64 * x.toInt64 + b.toInt64 * y.toInt64

/-- A limb of each row: the low 30 bits out, the rest carried. -/
def fgStep (t : Matrix) (z : Int32 × Int32) (c : Int64 × Int64) :
    (Int32 × Int32) × (Int64 × Int64) :=
  let cf := c.1 + row t.u t.v z.1 z.2
  let cg := c.2 + row t.q t.r z.1 z.2
  ((cf.toInt32 &&& M30, cg.toInt32 &&& M30), (cf >>> 30, cg >>> 30))

/-- `(f, g) = t (f, g) / 2^30` (exact). -/
def updateFg (f g : S30) (t : Matrix) : S30 × S30 :=
  let f0 := f.getD 0 0
  let g0 := g.getD 0 0
  let w := carry (fgStep t) ((f.drop 1).zip (g.drop 1))
    (row t.u t.v f0 g0 >>> 30, row t.q t.r f0 g0 >>> 30)
  (w.1.map Prod.fst ++ [w.2.1.toInt32], w.1.map Prod.snd ++ [w.2.2.toInt32])

/-- A limb of each row with its multiple of the modulus' limb. -/
def deStep (t : Matrix) (md me : Int32) (z : (Int32 × Int32) × Int32) (c : Int64 × Int64) :
    (Int32 × Int32) × (Int64 × Int64) :=
  let cd := c.1 + row t.u t.v z.1.1 z.1.2 + z.2.toInt64 * md.toInt64
  let ce := c.2 + row t.q t.r z.1.1 z.1.2 + z.2.toInt64 * me.toInt64
  ((cd.toInt32 &&& M30, ce.toInt32 &&& M30), (cd >>> 30, ce >>> 30))

/-- The modulus multiple that zeroes the bottom 30 bits of `c`. -/
def multiple (m : ModInfo) (md : Int32) (c : Int64) : Int32 :=
  md - ((m.inv30 * c.toInt32.toUInt32 + md.toUInt32) &&& M30.toUInt32).toInt32

/-- `(d, e) = t (d, e) / 2^30` mod the modulus, keeping both in range. -/
def updateDe (d e : S30) (t : Matrix) (m : ModInfo) : S30 × S30 :=
  let sd := d.getD 8 0 >>> 31
  let se := e.getD 8 0 >>> 31
  let di := d.getD 0 0
  let ei := e.getD 0 0
  let m0 := m.modulus.getD 0 0
  let cd := row t.u t.v di ei
  let ce := row t.q t.r di ei
  let md := multiple m ((t.u &&& sd) + (t.v &&& se)) cd
  let me := multiple m ((t.q &&& sd) + (t.r &&& se)) ce
  let cd := (cd + m0.toInt64 * md.toInt64) >>> 30
  let ce := (ce + m0.toInt64 * me.toInt64) >>> 30
  let w := carry (deStep t md me) (((d.drop 1).zip (e.drop 1)).zip (m.modulus.drop 1)) (cd, ce)
  (w.1.map Prod.fst ++ [w.2.1.toInt32], w.1.map Prod.snd ++ [w.2.2.toInt32])

/-! ### The result -/

/-- `r[i] & M30`, the rest onto the limb above. -/
def carryStep (r c : Int32) : Int32 × Int32 :=
  let r := r + c
  (r &&& M30, r >>> 30)

/-- The limbs below the last brought into `[0, 2^30)`. -/
def propagate (r : S30) : S30 :=
  let w := carry carryStep (r.take 8) 0
  w.1 ++ [r.getD 8 0 + w.2]

/-- `r` negated when `sign < 0`, brought into `[0, modulus)` with normalised limbs. -/
def normalize (r : S30) (sign : Int32) (m : ModInfo) : S30 :=
  let condAdd := r.getD 8 0 >>> 31
  let condNegate := sign >>> 31
  let r := propagate ((r.zip m.modulus).map fun z =>
    ((z.1 + (z.2 &&& condAdd)) ^^^ condNegate) - condNegate)
  -- the modulus again if still negative
  let condAdd := r.getD 8 0 >>> 31
  propagate ((r.zip m.modulus).map fun z => z.1 + (z.2 &&& condAdd))

/-- The variables of `invert`. -/
structure Round where
  zeta : Int32
  d : S30
  e : S30
  f : S30
  g : S30

/-- Thirty divsteps, applied to both pairs. -/
def round (m : ModInfo) (s : Round) : Round :=
  let w := divsteps30 s.zeta (s.f.getD 0 0).toUInt32 (s.g.getD 0 0).toUInt32
  let de := updateDe s.d s.e w.2 m
  let fg := updateFg s.f s.g w.2
  { zeta := w.1, d := de.1, e := de.2, f := fg.1, g := fg.2 }

/-- `x^-1 mod modulus` for `x` in `[0, modulus)`; zero for zero. -/
def invert (x : Fe) (m : ModInfo) : Fe :=
  let s := (round m)^[20]
    { zeta := -1, d := List.replicate 9 0, e := 1 :: List.replicate 8 0, f := m.modulus,
      g := toS30 x }
  fromS30 (normalize s.d (s.f.getD 8 0) m)

end EspMid.Model.SafeGcd
