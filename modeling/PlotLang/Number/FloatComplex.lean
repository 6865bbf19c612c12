/-! # Complex numbers of doubles

Pairs of floating-point numbers with the elementary functions on their principal branches. The
formulas are those that keep an imaginary part of zero at zero.
-/

namespace PlotLang

structure FloatComplex where
  re : Float
  im : Float

namespace FloatComplex

def ofReal (x : Float) : FloatComplex := ⟨x, 0⟩

def one : FloatComplex := ofReal 1

def add (z w : FloatComplex) : FloatComplex := ⟨z.re + w.re, z.im + w.im⟩

def sub (z w : FloatComplex) : FloatComplex := ⟨z.re - w.re, z.im - w.im⟩

def mul (z w : FloatComplex) : FloatComplex :=
  ⟨z.re * w.re - z.im * w.im, z.re * w.im + z.im * w.re⟩

/-- A quotient, scaled by the greater part of the divisor. -/
def div (z w : FloatComplex) : FloatComplex :=
  if w.re.abs ≥ w.im.abs then
    let ratio := w.im / w.re
    let scale := w.re + w.im * ratio
    ⟨(z.re + z.im * ratio) / scale, (z.im - z.re * ratio) / scale⟩
  else
    let ratio := w.re / w.im
    let scale := w.re * ratio + w.im
    ⟨(z.re * ratio + z.im) / scale, (z.im * ratio - z.re) / scale⟩

def isZero (z : FloatComplex) : Bool := z.re == 0 && z.im == 0

def abs (z : FloatComplex) : Float :=
  let a := z.re.abs
  let b := z.im.abs
  let large := if a < b then b else a
  let small := if a < b then a else b
  if a.isInf || b.isInf then 1 / 0
  else if large == 0 then large
  else
    let ratio := small / large
    large * (1 + ratio * ratio).sqrt

def timesI (z : FloatComplex) : FloatComplex := ⟨-z.im, z.re⟩

def timesMinusI (z : FloatComplex) : FloatComplex := ⟨z.im, -z.re⟩

def halve (z : FloatComplex) : FloatComplex := ⟨z.re / 2, z.im / 2⟩

def sqrt (z : FloatComplex) : FloatComplex :=
  if z.isZero then ⟨0, z.im⟩
  else
    let root := ((z.re.abs + z.abs) / 2).sqrt
    let other := z.im / (2 * root)
    if z.re < 0 then ⟨other.abs, if z.im < 0 then -root else root⟩ else ⟨root, other⟩

def log (z : FloatComplex) : FloatComplex := ⟨z.abs.log, Float.atan2 z.im z.re⟩

def exp (z : FloatComplex) : FloatComplex :=
  let size := z.re.exp
  if z.im == 0 then ⟨size, z.im⟩ else ⟨size * z.im.cos, size * z.im.sin⟩

def sin (z : FloatComplex) : FloatComplex :=
  ⟨z.re.sin * z.im.cosh, z.re.cos * z.im.sinh⟩

def cos (z : FloatComplex) : FloatComplex :=
  ⟨z.re.cos * z.im.cosh, -(z.re.sin * z.im.sinh)⟩

def tan (z : FloatComplex) : FloatComplex := div (sin z) (cos z)

def sinh (z : FloatComplex) : FloatComplex := (sin z.timesI).timesMinusI

def cosh (z : FloatComplex) : FloatComplex := cos z.timesI

def tanh (z : FloatComplex) : FloatComplex := (tan z.timesI).timesMinusI

def asin (z : FloatComplex) : FloatComplex :=
  (log (add z.timesI (sqrt (sub one (mul z z))))).timesMinusI

def acos (z : FloatComplex) : FloatComplex :=
  let w := asin z
  ⟨1.5707963267948966 - w.re, -w.im⟩

def atan (z : FloatComplex) : FloatComplex :=
  halve (sub (log (sub one z.timesI)) (log (add one z.timesI))).timesI

def asinh (z : FloatComplex) : FloatComplex := (asin z.timesI).timesMinusI

def atanh (z : FloatComplex) : FloatComplex :=
  halve (sub (log (add one z)) (log (sub one z)))

def powNat : Nat → FloatComplex → Nat → FloatComplex → FloatComplex
  | 0, _, _, acc => acc
  | fuel + 1, z, n, acc =>
    if n = 0 then acc
    else powNat fuel (mul z z) (n / 2) (if n % 2 = 1 then mul acc z else acc)

def powInt (z : FloatComplex) (n : Int) : FloatComplex :=
  let power := powNat 64 z n.natAbs one
  if n < 0 then div one power else power

/-- A power of a number that is not zero, by length and angle. -/
def powPolar (z w : FloatComplex) : FloatComplex :=
  let size := z.abs
  let angle := Float.atan2 z.im z.re
  let turned := angle * w.re
  let length := Float.pow size w.re
  if w.im == 0 then ⟨length * turned.cos, length * turned.sin⟩
  else
    let shrunk := length / (angle * w.im).exp
    let further := turned + w.im * size.log
    ⟨shrunk * further.cos, shrunk * further.sin⟩

end FloatComplex

end PlotLang
