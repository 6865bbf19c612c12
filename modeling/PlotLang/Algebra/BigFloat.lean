/-! # Binary floating-point numbers of any precision

A number is an odd integer times a power of two, or zero. There is no bound on the exponent. Each
operation is exact up to one rounding to a given number of bits, to nearest with ties to even.
-/

namespace PlotLang

structure BigFloat where
  mantissa : Int
  exponent : Int
  deriving DecidableEq, Repr

namespace BigFloat

def zero : BigFloat := ⟨0, 0⟩

def bitLength (n : Nat) : Nat := if n = 0 then 0 else n.log2 + 1

/-- Removes trailing zero bits, many at a time. -/
def normalize (mantissa : Int) (exponent : Int) : BigFloat :=
  if mantissa = 0 then zero
  else
    let n := mantissa.natAbs
    let lowest := (n &&& (n ^^^ (n - 1))).log2
    ⟨mantissa >>> lowest, exponent + lowest⟩

def shiftLeft (m : Int) (k : Nat) : Int := m * (Nat.pow 2 k : Nat)

/-- Rounds the magnitude of an integer to `bits` bits; `sticky` says that the exact value lies a
little beyond the magnitude given. -/
def roundTo (bits : Nat) (mantissa exponent : Int) (sticky : Bool) : BigFloat :=
  let n := mantissa.natAbs
  let size := bitLength n
  if size ≤ bits then normalize mantissa exponent
  else
    let drop := size - bits
    let kept := n >>> drop
    let lost := n - (kept <<< drop)
    let half := 1 <<< (drop - 1)
    let up := half < lost || (lost = half && (sticky || kept % 2 = 1))
    let rounded : Int := ((if up then kept + 1 else kept) : Nat)
    normalize (if mantissa < 0 then -rounded else rounded) (exponent + drop)

def round (bits : Nat) (x : BigFloat) : BigFloat := roundTo bits x.mantissa x.exponent false

def ofInt (n : Int) : BigFloat := normalize n 0

def isZero (x : BigFloat) : Bool := x.mantissa = 0

def isNegative (x : BigFloat) : Bool := x.mantissa < 0

def neg (x : BigFloat) : BigFloat := ⟨-x.mantissa, x.exponent⟩

def abs (x : BigFloat) : BigFloat := ⟨x.mantissa.natAbs, x.exponent⟩

def scale (x : BigFloat) (k : Int) : BigFloat :=
  if x.isZero then x else ⟨x.mantissa, x.exponent + k⟩

/-- The position above the leading bit: |x| < 2 ^ top, and 2 ^ (top - 1) ≤ |x| unless x is zero. -/
def top (x : BigFloat) : Int := x.exponent + bitLength x.mantissa.natAbs

/-- A sum; a term too small to reach the rounding position only breaks ties. -/
def add (bits : Nat) (x y : BigFloat) : BigFloat :=
  if x.isZero then y.round bits
  else if y.isZero then x.round bits
  else
    let (large, small) := if x.top < y.top then (y, x) else (x, y)
    let reach : Int := bits + 8 + bitLength large.mantissa.natAbs
    if large.top - small.top > reach then
      let extra := bits + 4
      let nudge : Int := if small.isNegative then -1 else 1
      roundTo bits (shiftLeft large.mantissa extra + nudge) (large.exponent - extra) false
    else
      let low := min x.exponent y.exponent
      roundTo bits
        (shiftLeft x.mantissa (x.exponent - low).toNat +
          shiftLeft y.mantissa (y.exponent - low).toNat)
        low false

def sub (bits : Nat) (x y : BigFloat) : BigFloat := add bits x y.neg

def mul (bits : Nat) (x y : BigFloat) : BigFloat :=
  roundTo bits (x.mantissa * y.mantissa) (x.exponent + y.exponent) false

/-- A quotient of integers; division by zero gives zero and is kept out by the callers. -/
def ofQuotient (bits : Nat) (num : Int) (den : Nat) : BigFloat :=
  if den = 0 then zero
  else
    let n := num.natAbs
    let shift := bits + 4 + bitLength den - bitLength n
    let scaled := n <<< shift
    let q : Int := (scaled / den : Nat)
    roundTo bits (if num < 0 then -q else q) (-shift) (scaled % den != 0)

def div (bits : Nat) (x y : BigFloat) : BigFloat :=
  let q := ofQuotient bits (if y.isNegative then -x.mantissa else x.mantissa) y.mantissa.natAbs
  q.scale (x.exponent - y.exponent)

def ofRat (bits : Nat) (q : Rat) : BigFloat := ofQuotient bits q.num q.den

/-- The square root of the magnitude. -/
def sqrt (bits : Nat) (x : BigFloat) : BigFloat :=
  if x.isZero then zero
  else
    let n := x.mantissa.natAbs
    let want := 2 * bits + 6 - bitLength n
    let shift := if (x.exponent - want) % 2 = 0 then want else want + 1
    let scaled := n <<< shift
    let root := scaled.sqrt
    roundTo bits root ((x.exponent - shift) / 2) (root * root != scaled)

/-- The exact value; large exponents make large integers. -/
def toRat (x : BigFloat) : Rat :=
  if 0 ≤ x.exponent then ((shiftLeft x.mantissa x.exponent.toNat : Int) : Rat)
  else mkRat x.mantissa (Nat.pow 2 (-x.exponent).toNat)

def isInteger (x : BigFloat) : Bool := x.isZero || 0 ≤ x.exponent

def floor (x : BigFloat) : Int :=
  if 0 ≤ x.exponent then shiftLeft x.mantissa x.exponent.toNat
  else x.mantissa >>> (-x.exponent).toNat

def ceil (x : BigFloat) : Int := -x.neg.floor

/-- The nearest integer, a tie going up. -/
def nearest (x : BigFloat) : Int :=
  if 0 ≤ x.exponent then shiftLeft x.mantissa x.exponent.toNat
  else (x.mantissa + shiftLeft 1 ((-x.exponent).toNat - 1)) >>> (-x.exponent).toNat

/-- The integer part of the value times 2 ^ places. -/
def toFixed (places : Nat) (x : BigFloat) : Int := (x.scale places).floor

def ofFixed (bits places : Nat) (n : Int) : BigFloat := roundTo bits n (-places) false

def lt (x y : BigFloat) : Bool :=
  if x.isNegative != y.isNegative then x.isNegative
  else if x.isZero then 0 < y.mantissa
  else if y.isZero then x.mantissa < 0
  else if x.top != y.top then (x.top < y.top) != x.isNegative
  else
    let low := min x.exponent y.exponent
    shiftLeft x.mantissa (x.exponent - low).toNat < shiftLeft y.mantissa (y.exponent - low).toNat

/-- An integer power by repeated squaring. -/
def powNat (bits : Nat) (x : BigFloat) : Nat → Nat → BigFloat → BigFloat
  | 0, _, acc => acc
  | fuel + 1, n, acc =>
    if n = 0 then acc
    else
      let next := if n % 2 = 1 then mul bits acc x else acc
      powNat bits (mul bits x x) fuel (n / 2) next

def powInt (bits : Nat) (x : BigFloat) (n : Int) : BigFloat :=
  let guarded := bits + 32 + 2 * bitLength n.natAbs
  let power := powNat guarded x (bitLength n.natAbs) n.natAbs (ofInt 1)
  if n < 0 then div bits (ofInt 1) power else power.round bits

end BigFloat

end PlotLang
