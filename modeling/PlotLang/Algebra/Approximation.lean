import PlotLang.Algebra.BigComplex
import PlotLang.Algebra.Term

/-! # Values of constant terms

A constant term is evaluated to a complex number of a given number of bits. What rests on such a
value is whether a constant is real, which sign it has and between which integers it lies.
-/

namespace PlotLang.Algebra.Term

open BigFloat (ofInt)

def applyTo (bits : Nat) (f : Function) (z : BigComplex) : Option BigComplex :=
  match f with
  | .sin => some (z.sin bits)
  | .cos => some (z.cos bits)
  | .tan => z.tan? bits
  | .asin => z.asin? bits
  | .acos => z.acos? bits
  | .atan => z.atan? bits
  | .sinh => some (z.sinh bits)
  | .cosh => some (z.cosh bits)
  | .tanh => z.tanh? bits
  | .asinh => z.asinh? bits
  | .atanh => z.atanh? bits
  | .exp => some (z.exp bits)
  | .log => z.log? bits
  | .abs => some (.ofReal (z.modulus bits))
  | .floor => if z.isReal then some (.ofReal (.ofInt z.re.floor)) else none
  | .ceiling => if z.isReal then some (.ofReal (.ofInt z.re.ceil)) else none
  | .re => some (.ofReal z.re)
  | .im => some (.ofReal z.im)

mutual

def approximate (bits : Nat) : Term → Option BigComplex
  | .number n => some (.ofReal (n.toBigFloat bits))
  | .pi => some (.ofReal (BigFloat.pi bits))
  | .euler => some (.ofReal (BigFloat.exp bits (.ofInt 1)))
  | .imaginary => some .i
  | .sum ts => approximateSum bits ts
  | .product ts => approximateProduct bits ts
  | .power b e => do BigComplex.pow? bits (← approximate bits b) (← approximate bits e)
  | .apply f a => do applyTo bits f (← approximate bits a)
  | _ => none

def approximateSum (bits : Nat) : List Term → Option BigComplex
  | [] => some .zero
  | t :: ts => do return BigComplex.add bits (← approximate bits t) (← approximateSum bits ts)

def approximateProduct (bits : Nat) : List Term → Option BigComplex
  | [] => some .one
  | t :: ts => do return BigComplex.mul bits (← approximate bits t) (← approximateProduct bits ts)

end

/-- The bits that decisions on signs are made with. -/
def decisionBits : Nat := 384

def constantValue (t : Term) : Option BigComplex :=
  if t.isConstant then t.approximate decisionBits else none

/-- An integer near one part of the value of a constant term, evaluated with as many bits as its
integer part has; a part that differs from an integer by less than can be told is that integer. -/
def partRounded (t : Term) (part : BigComplex → BigFloat) (rounding : BigFloat → Int) :
    Option Int := do
  let first ← t.approximate decisionBits
  let top := (part first).top
  let needed := top.toNat + decisionBits
  let value ← if top > 64 then t.approximate needed else some first
  let near := (part value).nearest
  let apart := BigFloat.sub needed (part value) (.ofInt near)
  if apart.isZero || apart.top < -200 then some near else some (rounding (part value))

/-- An integer near a real constant term. -/
def integerPart (t : Term) (rounding : BigFloat → Int) : Option Int := do
  if (← t.approximate decisionBits).isReal then t.partRounded BigComplex.re rounding else none

end PlotLang.Algebra.Term
