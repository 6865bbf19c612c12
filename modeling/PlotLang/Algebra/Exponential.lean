import PlotLang.Algebra.Coefficient

/-! # Exponential and logarithm

The exponential undoes the logarithm everywhere; the logarithm undoes the exponential of a real
number. Rational multiples of a half turn have exact exponentials, and the logarithm of a negative
or imaginary constant has its angle split off.
-/

namespace PlotLang.Algebra.Exponential

open Term (ofInt ofRat)

def isRealConstant (t : Term) : Bool := t.constantValue.any BigComplex.isReal

def expTurns? (r : Rules) (q : Rat) : Option Term :=
  let reduced := Term.modTwo q
  if reduced = 0 then some .one
  else if reduced = 1 then some .minusOne
  else if reduced = 1 / 2 then some .imaginary
  else if reduced = 3 / 2 then some (r.negate .imaginary)
  else
    let nearest := if 1 < reduced then reduced - 2 else reduced
    if nearest = q then none
    else some (r.apply .exp (r.product [ofRat nearest, .pi, .imaginary]))

/-- The exponential of a logarithm times real constants is a power. -/
def expLogarithm? (r : Rules) (fs : List Term) : Option Term :=
  let logarithms := fs.filterMap fun
    | .apply .log a => some a
    | _ => none
  let rest := fs.filter fun
    | .apply .log _ => false
    | _ => true
  match logarithms with
  | [a] => if rest.all isRealConstant then some (r.power a (r.product rest)) else none
  | _ => none

/-- The terms of a sum whose exponentials are known are taken out of the exponent. -/
def expSum? (r : Rules) (ts : List Term) : Option Term :=
  let (out, kept, changed) := ts.foldl
    (fun (out, kept, changed) t =>
      if t.isOne then (out, kept ++ [t], changed)
      else match r.apply .exp t with
        | .apply .exp a => (out, kept ++ [a], changed || !(a == t))
        | known => (out ++ [known], kept, changed))
    (([] : List Term), ([] : List Term), false)
  if out.isEmpty && !changed then none
  else
    let exponent := Term.sumOf kept
    let rest : Term :=
      if exponent.isZero then .one
      else if exponent.isOne then .euler
      else .apply .exp exponent
    some (r.product (out ++ [rest]))

def exp (r : Rules) (a : Term) : Option Term :=
  match a with
  | .undefined | .pole => some .undefined
  | .oscillation => some .oscillation
  | .infinity negative => some (if negative then .zero else .infinity false)
  | .number n => if n.isZero then some .one else if n.isOne then some .euler else none
  | .apply .log b => some b
  | .product fs =>
    match a.turnCoefficient? r with
    | some q => expTurns? r q
    | none => if fs.any Term.isInfinite then none else expLogarithm? r fs
  | .sum ts => expSum? r ts
  | _ => none

/-- The exact angles whose tangents a logarithm recognises, as parts of a half turn. -/
def exactAngle? (y x : BigFloat) : Option Rat :=
  let bits := Term.decisionBits
  let part := BigFloat.div bits (BigFloat.angle bits y x) (BigFloat.pi bits)
  let whole := BigFloat.mul bits part (.ofInt 120)
  let near := whole.nearest
  let apart := BigFloat.sub bits whole (.ofInt near)
  let angle := mkRat near 120
  if (apart.isZero || apart.top < -200) && angle.den ≤ 12 then some angle else none

def logComplex? (r : Rules) (a : Term) : Option Term := do
  let z ← a.constantValue
  if z.isReal ||
      a.has (fun | .number (.float ..) | .pi | .euler | .apply .. => true | _ => false) then
    none
  else
    let angle ← exactAngle? z.im z.re
    match r.apply .abs a with
    | .apply .abs _ => none
    | size => some (Term.add (r.apply .log size) (r.product [ofRat angle, .pi, .imaginary]))

def log (r : Rules) (a : Term) : Option Term :=
  match a with
  | .undefined => some .undefined
  | .pole => some .pole
  | .oscillation => some .undefined
  | .infinity _ => some (.infinity false)
  | .euler => some .one
  | a =>
    if a.isZero then some .pole
    else if a.isOne then some .zero
    else match a with
      | .number (.ratio q) =>
        if q.num = 1 then some (r.negate (r.apply .log (ofInt q.den))) else negative a
      | .apply .exp e => if e.isReal? = some true then some e else negative a
      | a => negative a
where
  negative (a : Term) : Option Term :=
    if a.isConstant && a.isNegative then
      some (Term.add (r.mul .pi .imaginary) (r.apply .log (r.negate a)))
    else match a with
      | .sum _ => logComplex? r a
      | a =>
        match (a.imaginaryCoefficient? r).bind Term.rational? with
        | some q =>
          let quarter := r.product [ofRat (if q < 0 then -1 / 2 else 1 / 2), .pi, .imaginary]
          some (Term.add quarter (r.apply .log (ofRat (if q < 0 then -q else q))))
        | none => logComplex? r a

def multiplicity (p n : Nat) : Nat := loop (n.log2 + 1) n 0
where
  loop : Nat → Nat → Nat → Nat
    | 0, _, k => k
    | fuel + 1, n, k => if n % p = 0 then loop fuel (n / p) (k + 1) else k

/-- The exponent of the power of a rational base that a rational number has as a factor. -/
def powerIn? (base q : Rat) : Option Int :=
  let p := base.num.natAbs
  let d := base.den
  let n := q.num.natAbs
  if base < 0 || q = 0 then none
  else if d = 1 then
    if p < 2 then none
    else if q.num = 1 then some (-(multiplicity p q.den : Nat))
    else some ((multiplicity p n : Int) - (if q.den = 1 then 0 else (multiplicity p q.den : Int)))
  else if p = 1 then some (multiplicity d q.den)
  else
    let like := min (multiplicity p n) (multiplicity d q.den)
    let cross := min (multiplicity d n) (multiplicity p q.den)
    some ((like : Int) - cross)

def logBase (r : Rules) (a b : Term) : Term :=
  if b.isOne then if a.isOne then .undefined else .pole
  else
    let quotient (a : Term) := r.div (r.apply .log a) (r.apply .log b)
    match a.rational?, b.rational? with
    | some p, some q =>
      match powerIn? q p with
      | some n =>
        if n = 0 then quotient a
        else Term.add (ofInt n) (quotient (ofRat (p / Product.ratPower q n)))
      | none => quotient a
    | _, _ => quotient a

end PlotLang.Algebra.Exponential
