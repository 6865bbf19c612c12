import PlotLang.Algebra.Hyperbolic

/-! # Absolute value, rounding, real and imaginary part

The absolute value of a product is taken factor by factor, of a complex constant from its parts.
Rounding moves integer terms out of a sum and evaluates constants exactly.
-/

namespace PlotLang.Algebra.Parts

open Term (ofInt ofRat)

def isAbs : Term → Bool
  | .apply .abs _ => true
  | _ => false

/-- The real and imaginary part of a constant term, term by term. -/
def parts? (r : Rules) (t : Term) : Option (Term × Term) :=
  t.terms.foldl
    (fun found s => do
      let (re, im) ← found
      if s.constantIsReal? = some true then some (re ++ [s], im)
      else
        let c ← s.imaginaryCoefficient? r
        if c.constantIsReal? = some true then some (re, im ++ [c]) else none)
    (some (([] : List Term), ([] : List Term)))
  |>.map fun (re, im) => (Term.sumOf re, Term.sumOf im)

def realPart (r : Rules) (a : Term) : Option Term :=
  match a with
  | .undefined | .pole => some .undefined
  | a =>
    if a.isReal? = some true then some a
    else (parts? r a).map Prod.fst

def imaginaryPart (r : Rules) (a : Term) : Option Term :=
  match a with
  | .undefined | .pole => some .undefined
  | a =>
    if a.isReal? = some true then some .zero
    else (parts? r a).map Prod.snd

def isDenominator : Term → Bool
  | .power _ e => e.rational?.any (· < 0)
  | .number (.ratio q) => q.den != 1
  | _ => false

def hasSymbols (t : Term) : Bool := !t.symbols.isEmpty

def absProduct (r : Rules) (fs : List Term) : Term :=
  let (known, unknown) := fs.foldl
    (fun (known, unknown) f =>
      match f with
      | .power b e =>
        if e.isInteger && e.isNegative then
          let inner := r.apply .abs b
          if isAbs inner then (known, unknown ++ [f]) else (known ++ [r.power inner e], unknown)
        else split known unknown f
      | f => split known unknown f)
    (([] : List Term), ([] : List Term))
  let rest : List Term := if unknown.isEmpty then [] else [.apply .abs (r.product unknown)]
  r.product (known ++ rest)
where
  split (known unknown : List Term) (f : Term) : List Term × List Term :=
    let inner := r.apply .abs f
    if isAbs inner then (known, unknown ++ [f]) else (known ++ [inner], unknown)

def absPower (r : Rules) (b e : Term) : Option Term :=
  if b.isReal? = some true then
    if e.isInteger then
      if e.isEven then some (.power b e)
      else if b == .minusOne then some .one
      else some (r.power (r.apply .abs b) e)
    else if b.isNonnegative then some (r.power b (r.apply .re e))
    else if b.isNegative then
      some (r.mul (r.power (r.negate b) (r.apply .re e))
        (r.apply .exp (r.product [.minusOne, .pi, r.apply .im e])))
    else none
  else if hasSymbols b then none
  else match parts? r (r.apply .log b) with
    | some (re, im) =>
      some (r.apply .exp (r.apply .re (r.mul e (Term.add re (r.mul .imaginary im)))))
    | none => none

/-- The absolute value by what is known of the whole term. -/
def absWhole (r : Rules) (a : Term) : Option Term :=
  if a.isZero then some .zero
  else if a.isNonnegative then some a
  else if (a.sign?.map Sign.isNonpositive).getD false then some (r.negate a)
  else
    let rotated := if a.isImaginary then some (r.product [.minusOne, .imaginary, a]) else none
    match rotated with
    | some t => some (if t.isNonnegative then t else r.negate t)
    | none =>
      if a.isReal? = some true || hasSymbols a then none
      else (parts? r a).map fun (re, im) =>
        r.sqrt (Term.add (r.square re) (r.square im))

def abs (r : Rules) (a : Term) : Option Term :=
  match a with
  | .undefined => some .undefined
  | .pole | .infinity _ => some (.infinity false)
  | .oscillation => some .oscillation
  | .apply .abs _ => some a
  | .product fs =>
    let below := fs.filter isDenominator
    let above := fs.filter fun f => !isDenominator f
    if below.any hasSymbols && !above.any hasSymbols then
      let denominator := r.product (below.map r.inverse)
      some (r.div (r.apply .abs (r.product above)) (r.apply .abs denominator))
    else some (absProduct r fs)
  | .power b e =>
    if isDenominator a && hasSymbols a then
      let inner := r.apply .abs (r.inverse a)
      some (r.inverse inner)
    else match absPower r b e with
      | some t => some t
      | none => if b.isReal? = some true then none else absWhole r a
  | .apply .exp e => some (r.apply .exp (r.apply .re e))
  | a =>
    if a.terms.any Term.isInfinite then some (.infinity false)
    else absWhole r a

/-- The integer a term is, whether exact or floating-point. -/
def wholeTerm? (t : Term) : Option Term :=
  match t with
  | .number n => n.wholeValue?.map ofInt
  | t => if t.isInteger then some t else none

structure Rounding where
  whole : List Term := []
  constant : List Term := []
  other : List Term := []

def sortTerm (r : Rules) (p : Rounding) (t : Term) : Rounding :=
  let imaginary := (t.imaginaryCoefficient? r).bind wholeTerm?
  match imaginary with
  | some n => { p with whole := p.whole ++ [r.mul n .imaginary] }
  | none =>
    match wholeTerm? t with
    | some n => { p with whole := p.whole ++ [n] }
    | none =>
      if t.isConstant then { p with constant := p.constant ++ [t] }
      else { p with other := p.other ++ [t] }

def isRounded : Term → Bool
  | .apply .floor _ | .apply .ceiling _ => true
  | _ => false

/-- A constant rounded in both of its parts. -/
def roundConstant? (r : Rules) (toInt : BigFloat → Int) (t : Term) : Option Term := do
  if t.constantIsReal? = some true then some (ofInt (← t.integerPart toInt))
  else
    let n ← t.partRounded BigComplex.re toInt
    let m ← t.partRounded BigComplex.im toInt
    some (Term.add (ofInt n) (r.mul (ofInt m) .imaginary))

/-- Rounds down or up, as `f` says. -/
def round (r : Rules) (f : Function) (a : Term) : Option Term :=
  let toInt : BigFloat → Int := if f = .ceiling then BigFloat.ceil else BigFloat.floor
  match a with
  | .undefined => some .undefined
  | .infinity _ | .pole => some a
  | .number n => some (ofInt (if f = .ceiling then n.ceil else n.floor))
  | a =>
    if isRounded a || isRounded (r.negate a) then some a
    else if a.isInteger then some a
    else match (if a.isImaginary then a.imaginaryCoefficient? r else none) with
      | some c => some (r.mul (r.apply f c) .imaginary)
      | none =>
        let p := a.terms.foldl (sortTerm r) {}
        let whole := Term.sumOf p.whole
        if p.constant.isEmpty && p.other.isEmpty then some whole
        else
          let rounded :=
            if p.other.isEmpty then roundConstant? r toInt (Term.sumOf p.constant) else none
          match rounded with
          | some n => some (Term.add whole n)
          | none =>
            let rest := Term.sumOf (p.other ++ p.constant)
            if p.whole.isEmpty then none
            else if isRounded rest then some (Term.add whole rest)
            else some (Term.add whole (.apply f rest))

end PlotLang.Algebra.Parts
