import PlotLang.Algebra.Sum

/-! # Rules of simplification

Products, powers and functions simplify by rules that build further products, powers and functions.
A set of rules is a record of the three, so that each rule can be stated for any set that serves it
below; the module that ties them together bounds how deep the nesting may go.
-/

namespace PlotLang.Algebra

structure Rules where
  product : List Term → Term
  power : Term → Term → Term
  apply : Function → Term → Term

namespace Rules

/-- The rules that build terms as they stand. -/
def plain : Rules where
  product ts := Term.ofFactors ts
  power b e := .power b e
  apply f a := .apply f a

def mul (r : Rules) (a b : Term) : Term := r.product [a, b]

def negate (r : Rules) (t : Term) : Term := r.product [.minusOne, t]

def sub (r : Rules) (a b : Term) : Term := Term.add a (r.negate b)

def inverse (r : Rules) (t : Term) : Term := r.power t .minusOne

def div (r : Rules) (a b : Term) : Term :=
  if a.isOne then r.inverse b else r.mul a (r.inverse b)

def sqrt (r : Rules) (t : Term) : Term := r.power t .half

def square (r : Rules) (t : Term) : Term := r.power t (.ofInt 2)

def scale (r : Rules) (q : Rat) (t : Term) : Term := r.mul (.ofRat q) t

end Rules

end PlotLang.Algebra
