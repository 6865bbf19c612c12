import PlotLang.Algebra.Exponential

/-! # Sine, cosine and tangent and their inverses

Each function takes minus signs and the imaginary unit out of its argument, knows its values at the
rational multiples of pi that need few square roots, and meets its own inverse and those of the
others.
-/

namespace PlotLang.Algebra.Trigonometry

open Term (ofInt ofRat)

def angle (r : Rules) (q : Rat) : Term := r.scale q .pi

/-- An angle as the difference of two whose values are known, by its denominator. -/
def splitDenominator? (d : Nat) : Option (Nat × Nat) :=
  match d with
  | 12 => some (3, 4)
  | 15 => some (6, 10)
  | 20 => some (4, 5)
  | 24 => some (6, 8)
  | 30 => some (5, 6)
  | 40 => some (8, 10)
  | 60 => some (20, 30)
  | 120 => some (40, 60)
  | _ => none

def isCosine : Term → Bool
  | .apply .cos _ => true
  | _ => false

def cosAngle? (r : Rules) (q : Rat) : Option Term :=
  let cosAt (q : Rat) : Term := r.apply .cos (angle r q)
  let d := q.den
  if d = 1 then some (if q.num % 2 = 0 then .one else .minusOne)
  else if d = 2 then some .zero
  else
    let reduced := Term.modTwo q
    if 1 < reduced then some (r.negate (cosAt (q - 1)))
    else if 1 < 2 * reduced then some (r.negate (cosAt (1 - q)))
    else match splitDenominator? d with
      | some (a, b) =>
        let first := mkRat (reduced.num) a
        let second := mkRat (reduced.num) b
        some (Term.add (r.mul (cosAt first) (cosAt second))
          (r.mul (cosAt (1 / 2 - first)) (cosAt (1 / 2 - second))))
      | none =>
        if 12 < d then none
        else if d = 3 then some .half
        else if d = 5 then
          let quarter := ofRat (if reduced = 1 / 5 then 1 / 4 else -1 / 4)
          some (Term.add quarter (r.scale (1 / 4) (r.sqrt (ofInt 5))))
        else if d % 2 = 0 then
          let double := cosAt (2 * q)
          if isCosine double then none
          else some (r.sqrt (Term.add .half (r.scale (1 / 2) double)))
        else none

/-- Replaces a multiple of pi by the remainder of its coefficient, unless it is that already. -/
def again? (r : Rules) (f : Function) (a c : Term) : Option Term :=
  let reduced := r.mul c .pi
  if reduced == a then none else some (r.apply f reduced)

def sinAngle? (r : Rules) (a : Term) (q : Rat) : Option Term :=
  if q.den = 1 then some .zero
  else if q.den = 2 then some (if (q - 1 / 2).num % 2 = 0 then .one else .minusOne)
  else
    let reduced := Term.modTwo q
    if 1 < reduced then some (r.negate (r.apply .sin (angle r (reduced - 1))))
    else if 1 < 2 * reduced then some (r.apply .sin (angle r (1 - reduced)))
    else
      let shifted := r.apply .cos (angle r (Term.modTwo (q + 3 / 2)))
      let isKnown := match shifted with
        | .apply .cos _ => false
        | .product [_, .apply .cos _] => false
        | _ => true
      if isKnown then some shifted else again? r .sin a (ofRat q)

/-- The cosine and sine of a multiple of half pi. -/
def quarterTurns (m : Rat) : Rat × Rat :=
  match ((2 * m).num % 4).toNat with
  | 0 => (1, 0)
  | 1 => (0, 1)
  | 2 => (-1, 0)
  | _ => (0, -1)

def oneMinusSquare (r : Rules) (x : Term) : Term := r.sub .one (r.square x)

def onePlusSquare (r : Rules) (x : Term) : Term := Term.add .one (r.square x)

/-- A function of its inverse, or of the inverse of another. -/
def ofInverse? (r : Rules) (f : Function) (a : Term) : Option Term :=
  match f, a with
  | .sin, .apply .asin x | .cos, .apply .acos x | .tan, .apply .atan x => some x
  | .sin, .apply .acos x | .cos, .apply .asin x => some (r.sqrt (oneMinusSquare r x))
  | .sin, .apply .atan x => some (r.div x (r.sqrt (onePlusSquare r x)))
  | .cos, .apply .atan x => some (r.inverse (r.sqrt (onePlusSquare r x)))
  | .tan, .apply .asin x => some (r.div x (r.sqrt (oneMinusSquare r x)))
  | .tan, .apply .acos x => some (r.div (r.sqrt (oneMinusSquare r x)) x)
  | _, _ => none

def isSignedInfinity : Term → Bool
  | .infinity _ => true
  | _ => false

def sin (r : Rules) (a : Term) : Option Term :=
  if a.isZero then some .zero
  else if isSignedInfinity a then some .oscillation
  else if a.prefersMinus then some (r.negate (r.apply .sin (r.negate a)))
  else match a.imaginaryCoefficient? r with
    | some c => some (r.mul .imaginary (r.apply .sinh c))
    | none => match a.piCoefficient? r with
      | some c =>
        match c.rational? with
        | some q => sinAngle? r a q
        | none => again? r .sin a c
      | none =>
        match (match a with | .sum ts => Term.peelPi r ts | _ => none) with
        | some (rest, m) =>
          let (c, s) := quarterTurns m
          some (Term.add (r.scale s (r.apply .cos rest)) (r.scale c (r.apply .sin rest)))
        | none => ofInverse? r .sin a

def cos (r : Rules) (a : Term) : Option Term :=
  if a.isZero then some .one
  else if isSignedInfinity a then some .oscillation
  else if a.prefersMinus then some (r.apply .cos (r.negate a))
  else match a.imaginaryCoefficient? r with
    | some c => some (r.apply .cosh c)
    | none => match a.piCoefficient? r with
      | some c =>
        match c.rational? with
        | some q => cosAngle? r q
        | none => again? r .cos a c
      | none =>
        match (match a with | .sum ts => Term.peelPi r ts | _ => none) with
        | some (rest, m) =>
          let (c, s) := quarterTurns m
          some (r.sub (r.scale c (r.apply .cos rest)) (r.scale s (r.apply .sin rest)))
        | none => ofInverse? r .cos a

def tanTenth (r : Rules) (n : Nat) : Term :=
  let root := r.sqrt (ofInt 5)
  let inside := match n with
    | 1 => Term.add .one (r.scale (-2 / 5) root)
    | 2 => Term.add (ofInt 5) (r.scale (-2) root)
    | 3 => Term.add .one (r.scale (2 / 5) root)
    | _ => Term.add (ofInt 5) (r.scale 2 root)
  r.sqrt inside

def tanAngle? (r : Rules) (a : Term) (q : Rat) : Option Term :=
  let d := q.den
  let p := (q.num % d).toNat
  let cosAt (q : Rat) : Term := r.apply .cos (angle r q)
  if d = 1 then some .zero
  else if d = 5 || d = 10 then
    let n := 10 * p / d
    some (if 5 < n then r.negate (tanTenth r (10 - n)) else tanTenth r n)
  else
    let double := cosAt (2 * q)
    let doubleSin := cosAt (2 * q - 1 / 2)
    if d % 2 = 0 && !isCosine double && !isCosine doubleSin then
      if doubleSin.isZero then some .pole
      else some (r.sub (r.inverse doubleSin) (r.div double doubleSin))
    else match splitDenominator? d with
      | some (m, n) =>
        let first := r.apply .tan (angle r (mkRat p m))
        let second := r.apply .tan (angle r (mkRat p n))
        some (r.div (r.sub first second) (Term.add .one (r.mul first second)))
      | none =>
        let shifted := q + 1 / 2
        let reduced := shifted - shifted.floor - 1 / 2
        let below := cosAt reduced
        let above := cosAt (reduced - 1 / 2)
        if !isCosine below && !isCosine above then
          if below.isZero then some .pole else some (r.div above below)
        else again? r .tan a (ofRat reduced)

def tan (r : Rules) (a : Term) : Option Term :=
  if a.isZero then some .zero
  else if isSignedInfinity a then some .oscillation
  else if a.prefersMinus then some (r.negate (r.apply .tan (r.negate a)))
  else match a.imaginaryCoefficient? r with
    | some c => some (r.mul .imaginary (r.apply .tanh c))
    | none => match a.piCoefficient? r with
      | some c =>
        match c.rational? with
        | some q => tanAngle? r a q
        | none => again? r .tan a c
      | none =>
        match (match a with | .sum ts => Term.peelPi r ts | _ => none) with
        | some (rest, m) =>
          if m.den = 1 then some (r.apply .tan rest)
          else some (r.negate (r.inverse (r.apply .tan rest)))
        | none => ofInverse? r .tan a

/-- A term without floating-point numbers. -/
def isExact (t : Term) : Bool :=
  !t.has fun
    | .number (.float ..) => true
    | _ => false

/-- The exact angle with a given value of a function, which `inverse` takes to an angle. -/
def exactInverse? (inverse : BigFloat → BigFloat) (a : Term) : Option Rat := do
  let z ← a.constantValue
  if !z.isReal || !isExact a ||
      a.has (fun | .pi | .euler | .apply .. => true | _ => false) then none
  else
    let bits := Term.decisionBits
    let turns := BigFloat.div bits (inverse z.re) (BigFloat.pi bits)
    let whole := BigFloat.mul bits turns (.ofInt 120)
    let near := whole.nearest
    let apart := BigFloat.sub bits whole (.ofInt near)
    let found := mkRat near 120
    if (apart.isZero || apart.top < -200) && found.den ≤ 12 then some found else none

def exactAsin? (a : Term) : Option Rat := do
  let z ← a.constantValue
  if BigComplex.inUnitInterval z.re then exactInverse? (BigFloat.asin Term.decisionBits) a else none

/-- Reduces a real constant by whole multiples of a rational number of half turns, to at least zero
and below that multiple. -/
def reduceBy (r : Rules) (period : Rat) (a : Term) : Option Term := do
  let z ← a.constantValue
  if !z.isReal then none
  else
    let ratio ← (r.div a (angle r period)).integerPart BigFloat.floor
    some (r.sub a (angle r (period * ratio)))

def exceeds (a b : Term) (r : Rules) : Bool := (r.sub a b).isPositive

/-- The angle between minus and plus a quarter turn with the sine of a constant. -/
def principalSine? (r : Rules) (a : Term) : Option Term := do
  let turned ← reduceBy r 2 a
  let half := angle r (1 / 2)
  let upper := if exceeds turned .pi r then r.sub .pi turned else turned
  let middle := if exceeds upper half r then r.sub .pi upper else upper
  some (if exceeds (r.negate half) middle r then r.sub (r.negate .pi) middle else middle)

def principalCosine? (r : Rules) (a : Term) : Option Term := do
  let turned ← reduceBy r 2 a
  some (if exceeds turned .pi r then r.sub (angle r 2) turned else turned)

def principalTangent? (r : Rules) (a : Term) : Option Term := do
  let turned ← reduceBy r 1 a
  some (if exceeds turned (angle r (1 / 2)) r then r.sub turned .pi else turned)

def asin (r : Rules) (a : Term) : Option Term :=
  match a with
  | .pole => some .pole
  | .infinity negative => some (.product [.infinity !negative, .imaginary])
  | a =>
    if a.isZero then some .zero
    else if a.prefersMinus then some (r.negate (r.apply .asin (r.negate a)))
    else match exactAsin? a with
      | some q => some (angle r q)
      | none => match a.imaginaryCoefficient? r with
        | some c => some (r.mul .imaginary (r.apply .asinh c))
        | none => match a with
          | .apply .sin x => principalSine? r x
          | .apply .cos x =>
            if Exponential.isRealConstant x then
              some (r.sub (angle r (1 / 2)) (r.apply .acos a))
            else none
          | _ => none

def acos (r : Rules) (a : Term) : Option Term :=
  let quarter := angle r (1 / 2)
  match a with
  | .pole => some .pole
  | .infinity negative => some (.product [.infinity negative, .imaginary])
  | a =>
    if a.isZero then some quarter
    else match exactAsin? a with
      | some q => some (r.sub quarter (angle r q))
      | none => match a.imaginaryCoefficient? r with
        | some _ => some (r.sub quarter (r.apply .asin a))
        | none => match a with
          | .apply .cos x => principalCosine? r x
          | .product [.number n, .apply .cos x] =>
            if n = -1 then principalCosine? r (r.sub .pi x) else none
          | .apply .sin x =>
            if Exponential.isRealConstant x then some (r.sub quarter (r.apply .asin a)) else none
          | .product [.number n, .apply .sin x] =>
            if n = -1 && Exponential.isRealConstant x then
              some (Term.add quarter (r.apply .asin (.apply .sin x)))
            else none
          | _ => none

def atan (r : Rules) (a : Term) : Option Term :=
  match a with
  | .pole => some .oscillation
  | .infinity negative => some (angle r (if negative then -1 / 2 else 1 / 2))
  | a =>
    if a.isZero then some .zero
    else if a.prefersMinus then some (r.negate (r.apply .atan (r.negate a)))
    else match exactInverse? (BigFloat.atan Term.decisionBits) a with
      | some q => some (angle r q)
      | none => match a.imaginaryCoefficient? r with
        | some c => some (r.mul .imaginary (r.apply .atanh c))
        | none => match a with
          | .apply .tan x => principalTangent? r x
          | _ => none

end PlotLang.Algebra.Trigonometry
