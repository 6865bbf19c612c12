import PlotLang.Algebra.Parts

/-! # The rules tied together

Each rule builds terms by the rules one level below it; at the lowest level terms are built as they
stand. A function that no rule applies to is evaluated if its argument is a floating-point number,
real or complex.
-/

namespace PlotLang.Algebra

namespace Function

def rule (r : Rules) (f : Function) (a : Term) : Option Term :=
  match f with
  | .sin => Trigonometry.sin r a
  | .cos => Trigonometry.cos r a
  | .tan => Trigonometry.tan r a
  | .asin => Trigonometry.asin r a
  | .acos => Trigonometry.acos r a
  | .atan => Trigonometry.atan r a
  | .sinh => Hyperbolic.sinh r a
  | .cosh => Hyperbolic.cosh r a
  | .tanh => Hyperbolic.tanh r a
  | .asinh => Hyperbolic.asinh r a
  | .atanh => Hyperbolic.atanh r a
  | .exp => Exponential.exp r a
  | .log => Exponential.log r a
  | .abs => Parts.abs r a
  | .floor => Parts.round r .floor a
  | .ceiling => Parts.round r .ceiling a
  | .re => Parts.realPart r a
  | .im => Parts.imaginaryPart r a

/-- The bits of a floating-point argument; none of an exact one. -/
def argumentBits? (a : Term) : Option Nat :=
  match a with
  | .number (.float _ bits) => some bits
  | a =>
    match a.isSum, a.complexParts? with
    | true, some (a, b) => if max a.bits b.bits = 0 then none else some (max a.bits b.bits)
    | _, _ => none

def evaluate? (r : Rules) (f : Function) (a : Term) : Option Term := do
  let bits ← argumentBits? a
  let guarded := bits + 64
  let z ← Term.applyTo guarded f (← a.approximate guarded)
  some (Power.complexTerm r z bits)

def apply (r : Rules) (f : Function) (a : Term) : Term :=
  match a with
  | .undefined => .undefined
  | a => ((f.rule r a).orElse fun _ => f.evaluate? r a).getD (.apply f a)

end Function

namespace Rules

def above (r : Rules) : Rules where
  product := Product.simplify r
  power := Power.simplify r
  apply := Function.apply r

def atDepth : Nat → Rules
  | 0 => plain
  | depth + 1 => (atDepth depth).above

/-- The rules to build terms of a given size by: each level of a term needs a few levels of
rules. -/
def forSize (size : Nat) : Rules := atDepth (64 + 2 * size)

end Rules

end PlotLang.Algebra
