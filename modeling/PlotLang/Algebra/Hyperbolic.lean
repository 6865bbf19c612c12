import PlotLang.Algebra.Trigonometry

/-! # Hyperbolic functions

The hyperbolic functions of an imaginary argument are the circular ones. The inverse functions occur
where an inverse circular function was given an imaginary argument.
-/

namespace PlotLang.Algebra.Hyperbolic

open Term (ofInt ofRat)

/-- A sum without the multiples of half a turn on the imaginary axis, and that multiple of pi. -/
def peelTurns (r : Rules) (ts : List Term) : Option (Term × Rat) :=
  let rational (t : Term) : Option Rat := t.turnCoefficient? r
  let total := (ts.filterMap rational).foldl (· + ·) 0
  let rest := ts.filter fun t => (rational t).isNone
  let whole : Rat := mkRat (2 * total).floor 2
  if total = 0 || whole = 0 then none
  else some (Term.sumOf (rest ++ [r.product [ofRat (total - whole), .pi, .imaginary]]), whole)

def peel (r : Rules) (a : Term) : Option (Term × Rat) :=
  match a with
  | .sum ts => peelTurns r ts
  | _ => none

def sinh (r : Rules) (a : Term) : Option Term :=
  match a with
  | .pole => some .undefined
  | .infinity negative => some (.infinity negative)
  | a =>
    if a.isZero then some .zero
    else match a.imaginaryCoefficient? r with
      | some c => some (r.mul .imaginary (r.apply .sin c))
      | none =>
        if a.prefersMinus then some (r.negate (r.apply .sinh (r.negate a)))
        else match peel r a with
          | some (rest, m) =>
            let (c, s) := Trigonometry.quarterTurns m
            some (Term.add (r.product [ofRat s, .imaginary, r.apply .cosh rest])
              (r.scale c (r.apply .sinh rest)))
          | none => match a with
            | .apply .asinh x => some x
            | .apply .atanh x => some (r.div x (r.sqrt (Trigonometry.oneMinusSquare r x)))
            | _ => none

def cosh (r : Rules) (a : Term) : Option Term :=
  match a with
  | .pole => some .undefined
  | .infinity _ => some (.infinity false)
  | a =>
    if a.isZero then some .one
    else match a.imaginaryCoefficient? r with
      | some c => some (r.apply .cos c)
      | none =>
        if a.prefersMinus then some (r.apply .cosh (r.negate a))
        else match peel r a with
          | some (rest, m) =>
            let (c, s) := Trigonometry.quarterTurns m
            some (Term.add (r.scale c (r.apply .cosh rest))
              (r.product [ofRat s, .imaginary, r.apply .sinh rest]))
          | none => match a with
            | .apply .asinh x => some (r.sqrt (Trigonometry.onePlusSquare r x))
            | .apply .atanh x => some (r.inverse (r.sqrt (Trigonometry.oneMinusSquare r x)))
            | _ => none

def tanh (r : Rules) (a : Term) : Option Term :=
  match a with
  | .pole => some .undefined
  | .infinity negative => some (if negative then .minusOne else .one)
  | a =>
    if a.isZero then some .zero
    else match a.imaginaryCoefficient? r with
      | some c => some (r.mul .imaginary (r.apply .tan c))
      | none =>
        if a.prefersMinus then some (r.negate (r.apply .tanh (r.negate a)))
        else match peel r a with
          | some (rest, m) =>
            if m.den = 1 then some (r.apply .tanh rest)
            else some (r.inverse (r.apply .tanh rest))
          | none => match a with
            | .apply .asinh x => some (r.div x (r.sqrt (Trigonometry.onePlusSquare r x)))
            | .apply .atanh x => some x
            | _ => none

def asinh (r : Rules) (a : Term) : Option Term :=
  match a with
  | .pole => some .pole
  | .infinity negative => some (.infinity negative)
  | a =>
    if a.isZero then some .zero
    else if a.isOne then some (r.apply .log (Term.add (r.sqrt (ofInt 2)) .one))
    else match a.imaginaryCoefficient? r with
      | some c => some (r.mul .imaginary (r.apply .asin c))
      | none =>
        if a.prefersMinus then some (r.negate (r.apply .asinh (r.negate a))) else none

def atanh (r : Rules) (a : Term) : Option Term :=
  match a with
  | .pole => some .oscillation
  | .infinity negative =>
    some (r.mul (if negative then .imaginary else r.negate .imaginary)
      (r.apply .atan (.infinity false)))
  | a =>
    if a.isZero then some .zero
    else if a.isOne then some (.infinity false)
    else if a == .minusOne then some (.infinity true)
    else match a.imaginaryCoefficient? r with
      | some c => some (r.mul .imaginary (r.apply .atan c))
      | none =>
        if a.prefersMinus then some (r.negate (r.apply .atanh (r.negate a))) else none

end PlotLang.Algebra.Hyperbolic
