import PlotLang.Algebra.BigFloat
import PlotLang.Expression.Value

/-! # Sampling a term

A term is evaluated at an abscissa in doubles. A product divides the product of its other factors by
the product of those with negative exponents; square roots and reciprocals are operations of their
own, and a negative whole exponent is taken as a floating-point number.
-/

namespace PlotLang.Expression.Sampling

open PlotLang.Algebra (Number Term)

/-- The decimal digits that a number of a given number of bits is good for. -/
def digitsOfBits (bits : Nat) : Nat :=
  let quotient := (bits * 10000000000000000 * 2 + 33219280948873626) / (2 * 33219280948873626)
  max 1 (quotient - 1)

def roundedFloat (x : BigFloat) (bits : Nat) : Binary64 :=
  if x.isZero then .zero
  else if x.top > 1100 then .infinite x.isNegative
  else if x.top < -1200 then .finite x.isNegative 0 Binary64.fits_zero
  else
    let value := x.toRat
    (Decimal.significant value.num.natAbs value.den (digitsOfBits bits)).value x.isNegative

def ofNumber (n : Number) : Option Value :=
  match n with
  | .ratio q => if q.den = 1 then some (.whole q.num) else Value.div (.whole q.num) (.whole q.den)
  | .float x bits => some (.real false (roundedFloat x bits).toFloat)

def powRational (base : Value) (e : Rat) : Option Value :=
  if e.den = 1 then
    if e.num < 0 then do base.pow (.real false (← Value.floatOfInt? e.num))
    else base.pow (.whole e.num)
  else do base.pow (← ofNumber (.ratio e))

def times? (found : Option Value) (factor : Value) : Option Value :=
  match found with
  | none => some factor
  | some others => others.mul factor

mutual

/-- The value of a term; `none` where its arithmetic fails. -/
def eval (x : Float) : Term → Option Value
  | .number n => ofNumber n
  | .symbol _ => some (.real true x)
  | .pi => some (.real false 3.141592653589793)
  | .euler => some (.real false 2.718281828459045)
  | .imaginary => some (.complex false ⟨0, 1⟩)
  | .infinity negative => some (.real false (if negative then -1 / 0 else 1 / 0))
  | .undefined => some (.real false (0 / 0))
  | .sum [] => some (.whole 0)
  | .sum (t :: ts) => do evalSum x ts (← eval x t)
  | .product fs => evalProduct x fs none none
  | .power b (.number (.ratio e)) => do
    let base ← eval x b
    if e = 1 / 2 then base.sqrt
    else if e = -1 / 2 then (Value.whole 1).div (← base.sqrt)
    else powRational base e
  | .power b e => do (← eval x b).pow (← eval x e)
  | .apply f a => do (← eval x a).apply f
  | _ => none

def evalSum (x : Float) : List Term → Value → Option Value
  | [], total => some total
  | t :: ts, total => do evalSum x ts (← total.add (← eval x t))

/-- Multiplies the factors and those to divide by, each from the left, and divides at the end. -/
def evalProduct (x : Float) : List Term → Option Value → Option Value → Option Value
  | [], above, none => some (above.getD (.whole 1))
  | [], above, some below => (above.getD (.whole 1)).div below
  | .power b (.number (.ratio e)) :: fs, above, below => do
    let base ← eval x b
    if e < 0 then
      let factor ← if e = -1 then some base
        else if e = -1 / 2 then base.sqrt
        else powRational base (-e)
      evalProduct x fs above (← times? below factor)
    else
      let factor ← if e = 1 / 2 then base.sqrt else powRational base e
      evalProduct x fs (← times? above factor) below
  | f :: fs, above, below => do evalProduct x fs (← times? above (← eval x f)) below

end

end PlotLang.Expression.Sampling
