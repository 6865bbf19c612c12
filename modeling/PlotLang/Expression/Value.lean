import PlotLang.Algebra.Term
import PlotLang.Expression.Library
import PlotLang.Number.Decimal
import PlotLang.Number.FloatComplex

/-! # Values at a sample

An exact integer, a real number or a complex number. Numbers are either constant or sampled: what
comes from the abscissa or from a function is sampled and follows the rules of floating-point
arithmetic to the end, while an operation on constants fails where it has no finite answer, as in a
division by zero or a power that is too great.
-/

namespace PlotLang.Expression

open PlotLang.Algebra (Function Number)

inductive Value where
  | whole (n : Int)
  | real (sampled : Bool) (x : Float)
  | complex (sampled : Bool) (z : FloatComplex)

namespace Value

def isSampled : Value → Bool
  | .whole _ => false
  | .real sampled _ | .complex sampled _ => sampled

/-- An integer as a double; one that is too great has none. -/
def floatOfInt? (n : Int) : Option Float :=
  match Binary64.ofInt n with
  | .infinite _ => none
  | x => some x.toFloat

def float? : Value → Option Float
  | .whole n => floatOfInt? n
  | .real _ x => some x
  | .complex .. => none

def complex? : Value → Option FloatComplex
  | .complex _ z => some z
  | v => v.float?.map .ofReal

def isComplex : Value → Bool
  | .complex .. => true
  | _ => false

/-- An operation with its forms for integers, real and complex numbers. -/
def binary (exact : Int → Int → Int) (real : Float → Float → Float)
    (complex : FloatComplex → FloatComplex → FloatComplex) (a b : Value) : Option Value :=
  let sampled := a.isSampled || b.isSampled
  match a, b with
  | .whole m, .whole n => some (.whole (exact m n))
  | a, b =>
    if a.isComplex || b.isComplex then do
      return .complex sampled (complex (← a.complex?) (← b.complex?))
    else do
      return .real sampled (real (← a.float?) (← b.float?))

def add : Value → Value → Option Value := binary (· + ·) (· + ·) .add

def mul : Value → Value → Option Value := binary (· * ·) (· * ·) .mul

/-- A quotient of integers is rounded once. -/
def quotient? (m n : Int) : Option Float :=
  if n = 0 then none
  else match Binary64.ofRatio ((m < 0) != (n < 0)) m.natAbs n.natAbs with
    | .infinite _ => none
    | x => some x.toFloat

def div (a b : Value) : Option Value :=
  let sampled := a.isSampled || b.isSampled
  match a, b with
  | .whole m, .whole n => (quotient? m n).map (.real false)
  | a, b =>
    if a.isComplex || b.isComplex then do
      let divisor ← b.complex?
      if divisor.isZero && !sampled then none
      else return .complex sampled (.div (← a.complex?) divisor)
    else do
      let divisor ← b.float?
      if divisor == 0 && !sampled then none
      else return .real sampled ((← a.float?) / divisor)

/-- Whether a double is an integer of at most one hundred, as which a complex power multiplies. -/
def smallInteger? (w : FloatComplex) : Option Int :=
  if w.im == 0 && w.re == w.re.floor && w.re.abs ≤ 100 then (Binary64.ofFloat w.re).ceil? else none

def complexPow (sampled : Bool) (z w : FloatComplex) : Option Value :=
  if w.isZero then some (.complex sampled .one)
  else if z.isZero then
    if w.im == 0 && w.re > 0 then some (.complex sampled (.ofReal 0))
    else if sampled then some (.complex sampled ⟨0 / 0, 0 / 0⟩)
    else none
  else match smallInteger? w with
    | some n => some (.complex sampled (z.powInt n))
    | none => some (.complex sampled (z.powPolar w))

/-- A power of real constants: complex for a negative base and a broken exponent. -/
def constantPow (x y : Float) : Option Value :=
  if x == 0 && y < 0 then none
  else if x < 0 && x.isFinite && y.isFinite && y != y.floor then
    complexPow false (.ofReal x) (.ofReal y)
  else
    let power := Float.pow x y
    if power.isInf && x.isFinite && y.isFinite then none else some (.real false power)

/-- The greatest whole exponent that is raised to exactly. -/
def greatestExponent : Nat := Nat.pow 2 20

def pow (a b : Value) : Option Value :=
  let sampled := a.isSampled || b.isSampled
  match a, b with
  | .whole m, .whole n =>
    if 0 ≤ n then if n ≤ greatestExponent then some (.whole (Int.pow m n.toNat)) else none
    else do constantPow (← a.float?) (← b.float?)
  | a, b =>
    if a.isComplex || b.isComplex then do complexPow sampled (← a.complex?) (← b.complex?)
    else if sampled then do return .real true (Float.pow (← a.float?) (← b.float?))
    else do constantPow (← a.float?) (← b.float?)

def applyReal (f : Function) (x : Float) : Float :=
  match f with
  | .sin => x.sin
  | .cos => x.cos
  | .tan => x.tan
  | .asin => x.asin
  | .acos => x.acos
  | .atan => x.atan
  | .sinh => x.sinh
  | .cosh => x.cosh
  | .tanh => x.tanh
  | .asinh => x.asinh
  | .atanh => x.atanh
  | .exp => x.exp
  | .log => x.log
  | .abs => x.abs
  | .floor => x.floor
  | .ceiling => x.ceil
  | .re => x
  | .im => 0

def applyComplex (f : Function) (z : FloatComplex) : Option Value :=
  let value (w : FloatComplex) : Option Value := some (.complex true w)
  match f with
  | .sin => value z.sin
  | .cos => value z.cos
  | .tan => value z.tan
  | .asin => value z.asin
  | .acos => value z.acos
  | .atan => value z.atan
  | .sinh => value z.sinh
  | .cosh => value z.cosh
  | .tanh => value z.tanh
  | .asinh => value z.asinh
  | .atanh => value z.atanh
  | .exp => value z.exp
  | .log => value z.log
  | .abs => some (.real true z.abs)
  | .floor | .ceiling => none
  | .re => some (.real true z.re)
  | .im => some (.real true z.im)

/-- Integers that do not fit a machine word are no arguments of functions. -/
def fitsWord (n : Int) : Bool := -(Nat.pow 2 63 : Int) ≤ n && n < (Nat.pow 2 64 : Int)

def apply (f : Function) : Value → Option Value
  | .whole n =>
    if fitsWord n then (floatOfInt? n).map fun x => .real true (applyReal f x) else none
  | .real _ x => some (.real true (applyReal f x))
  | .complex _ z => applyComplex f z

def sqrt : Value → Option Value
  | .whole n => if fitsWord n then (floatOfInt? n).map fun x => .real true x.sqrt else none
  | .real _ x => some (.real true x.sqrt)
  | .complex _ z => some (.complex true z.sqrt)

def sampled? : Value → Option Sampled
  | .whole n => (floatOfInt? n).map fun x => .real (.ofFloat x)
  | .real _ x => some (.real (.ofFloat x))
  | .complex _ z => some (.complex (.ofFloat z.re) (.ofFloat z.im))

end Value

end PlotLang.Expression
