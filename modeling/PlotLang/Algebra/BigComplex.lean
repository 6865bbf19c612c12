import PlotLang.Algebra.Elementary

/-! # Complex numbers of any precision

Pairs of binary floating-point numbers, with the elementary functions on their principal branches.
A sum whose terms cancel beyond the working precision is taken to be zero, so that a value that is
real on paper has an imaginary part that is exactly zero.
-/

namespace PlotLang

structure BigComplex where
  re : BigFloat
  im : BigFloat
  deriving DecidableEq, Repr

namespace BigComplex

open BigFloat (ofInt)

def ofReal (x : BigFloat) : BigComplex := ⟨x, .zero⟩

def zero : BigComplex := ofReal .zero

def one : BigComplex := ofReal (ofInt 1)

def i : BigComplex := ⟨.zero, ofInt 1⟩

def isReal (z : BigComplex) : Bool := z.im.isZero

def isZero (z : BigComplex) : Bool := z.re.isZero && z.im.isZero

def neg (z : BigComplex) : BigComplex := ⟨z.re.neg, z.im.neg⟩

/-- A sum that loses all but the last sixth of its bits is zero. -/
def addPart (bits : Nat) (x y : BigFloat) : BigFloat :=
  let sum := BigFloat.add bits x y
  if x.isZero || y.isZero then sum
  else if max x.top y.top - sum.top > (bits : Int) - bits / 6 then .zero
  else sum

def add (bits : Nat) (z w : BigComplex) : BigComplex :=
  ⟨addPart bits z.re w.re, addPart bits z.im w.im⟩

def sub (bits : Nat) (z w : BigComplex) : BigComplex := add bits z w.neg

def mul (bits : Nat) (z w : BigComplex) : BigComplex :=
  let m := BigFloat.mul bits
  ⟨addPart bits (m z.re w.re) (m z.im w.im).neg, addPart bits (m z.re w.im) (m z.im w.re)⟩

def normSquared (bits : Nat) (z : BigComplex) : BigFloat :=
  BigFloat.add bits (BigFloat.mul bits z.re z.re) (BigFloat.mul bits z.im z.im)

def modulus (bits : Nat) (z : BigComplex) : BigFloat :=
  if z.im.isZero then z.re.abs
  else if z.re.isZero then z.im.abs
  else BigFloat.sqrt bits (normSquared bits z)

/-- The reciprocal; there is none of zero. -/
def inverse? (bits : Nat) (z : BigComplex) : Option BigComplex :=
  if z.isZero then none
  else if z.im.isZero then some (ofReal (BigFloat.div bits (ofInt 1) z.re))
  else
    let norm := normSquared bits z
    some ⟨BigFloat.div bits z.re norm, (BigFloat.div bits z.im norm).neg⟩

def timesI (z : BigComplex) : BigComplex := ⟨z.im.neg, z.re⟩

def timesMinusI (z : BigComplex) : BigComplex := ⟨z.im, z.re.neg⟩

def halve (z : BigComplex) : BigComplex := ⟨z.re.scale (-1), z.im.scale (-1)⟩

/-- The square root with a non-negative real part. -/
def sqrt (bits : Nat) (z : BigComplex) : BigComplex :=
  if z.im.isZero then
    if z.re.isNegative then ⟨.zero, BigFloat.sqrt bits z.re⟩ else ofReal (BigFloat.sqrt bits z.re)
  else
    let guarded := bits + 16
    let size := modulus guarded z
    let larger := BigFloat.sqrt guarded ((BigFloat.add guarded size z.re.abs).scale (-1))
    let other := (BigFloat.div guarded z.im larger).scale (-1)
    if z.re.isNegative then
      ⟨other.abs, if z.im.isNegative then larger.neg else larger⟩
    else ⟨larger, other⟩

def exp (bits : Nat) (z : BigComplex) : BigComplex :=
  let grown := BigFloat.exp bits z.re
  if z.im.isZero then ofReal grown
  else
    let (c, s) := BigFloat.cosSin bits z.im
    ⟨BigFloat.mul bits grown c, BigFloat.mul bits grown s⟩

/-- The logarithm with an imaginary part of at most half a turn; there is none of zero. -/
def log? (bits : Nat) (z : BigComplex) : Option BigComplex :=
  if z.isZero then none
  else some ⟨BigFloat.log bits (modulus (2 * bits) z), BigFloat.angle bits z.im z.re⟩

def sin (bits : Nat) (z : BigComplex) : BigComplex :=
  let (c, s) := BigFloat.cosSin bits z.re
  if z.im.isZero then ofReal s
  else
    let (ch, sh) := BigFloat.coshSinh bits z.im
    ⟨BigFloat.mul bits s ch, BigFloat.mul bits c sh⟩

def cos (bits : Nat) (z : BigComplex) : BigComplex :=
  let (c, s) := BigFloat.cosSin bits z.re
  if z.im.isZero then ofReal c
  else
    let (ch, sh) := BigFloat.coshSinh bits z.im
    ⟨BigFloat.mul bits c ch, (BigFloat.mul bits s sh).neg⟩

def tan? (bits : Nat) (z : BigComplex) : Option BigComplex :=
  (inverse? bits (cos bits z)).map (mul bits (sin bits z))

def sinh (bits : Nat) (z : BigComplex) : BigComplex := (sin bits z.timesI).timesMinusI

def cosh (bits : Nat) (z : BigComplex) : BigComplex := cos bits z.timesI

def tanh? (bits : Nat) (z : BigComplex) : Option BigComplex :=
  (tan? bits z.timesI).map timesMinusI

def inUnitInterval (x : BigFloat) : Bool := !(ofInt 1).lt x.abs

/-- Outside the unit interval the inverse sine and cosine of a real number are complex. -/
def asin? (bits : Nat) (z : BigComplex) : Option BigComplex :=
  if z.im.isZero && inUnitInterval z.re then some (ofReal (BigFloat.asin bits z.re))
  else
    let guarded := 2 * bits
    let cosine := sqrt guarded (sub guarded one (mul guarded z z))
    (log? guarded (add guarded z.timesI cosine)).map timesMinusI

def acos? (bits : Nat) (z : BigComplex) : Option BigComplex :=
  if z.im.isZero && inUnitInterval z.re then some (ofReal (BigFloat.acos bits z.re))
  else
    let quarter := ofReal ((BigFloat.pi (2 * bits)).scale (-1))
    (asin? bits z).map fun w => sub (2 * bits) quarter w

def atan? (bits : Nat) (z : BigComplex) : Option BigComplex :=
  if z.im.isZero then some (ofReal (BigFloat.atan bits z.re))
  else do
    let above ← log? bits (sub bits one z.timesI)
    let below ← log? bits (add bits one z.timesI)
    some (halve (timesI (sub bits above below)))

def asinh? (bits : Nat) (z : BigComplex) : Option BigComplex :=
  (asin? bits z.timesI).map timesMinusI

def atanh? (bits : Nat) (z : BigComplex) : Option BigComplex := do
  let above ← log? bits (add bits one z)
  let below ← log? bits (sub bits one z)
  some (halve (sub bits above below))

def powNat (bits : Nat) (z : BigComplex) : Nat → Nat → BigComplex → BigComplex
  | 0, _, acc => acc
  | fuel + 1, n, acc =>
    if n = 0 then acc
    else powNat bits (mul bits z z) fuel (n / 2) (if n % 2 = 1 then mul bits acc z else acc)

/-- A power on the principal branch. Whole exponents multiply; zero has only powers with a positive
real exponent. -/
def pow? (bits : Nat) (z w : BigComplex) : Option BigComplex :=
  if w.isZero then some one
  else if z.isZero then
    if w.im.isZero && !w.re.isNegative then some zero else none
  else if w.im.isZero && w.re.isInteger && w.re.top ≤ 64 then
    let n := w.re.floor
    let power := powNat bits z (BigFloat.bitLength n.natAbs) n.natAbs one
    if n < 0 then inverse? bits power else some power
  else if w.im.isZero && w.re = ⟨1, -1⟩ then some (sqrt bits z)
  else (log? (bits + 64) z).map fun l => exp bits (mul (bits + 64) w l)

end BigComplex

end PlotLang
