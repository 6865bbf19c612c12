import PlotLang.Algebra.Product

/-! # Powers

Powers of numbers are evaluated as far as they are exact: whole powers, perfect roots, and what can
be taken out of a root. A power of a power, of a product or of a sum is merged where that holds
for every value, a root being taken on its principal branch.
-/

namespace PlotLang.Algebra

namespace Term

def flipped (t : Term) : Term :=
  match t with
  | .infinity negative => .infinity !negative
  | .pole | .undefined | .oscillation => t
  | t =>
    let (c, s) := t.splitCoefficient
    s.withCoefficient (-c)

/-- Whether a term is the preferred one to be written with a minus sign in front. Of a non-zero term
and its negative at most one is. -/
def prefersMinus : Term → Bool
  | .number n => n.isNegative
  | .infinity negative => negative
  | .product (.number n :: _) => n.isNegative
  | .sum ts =>
    let minus := ts.countP fun
      | .number n => n.isNegative
      | .product (.number n :: _) => n.isNegative
      | .infinity negative => negative
      | _ => false
    let plus := ts.length - minus
    if minus < plus then false
    else if plus < minus then true
    else order (.sum ts) (sumOf (ts.map flipped)) = .lt
  | _ => false

def complexParts? : Term → Option (Number × Number)
  | .imaginary => some (0, 1)
  | .product [.number b, .imaginary] => some (0, b)
  | .sum [.number a, .imaginary] => some (a, 1)
  | .sum [.number a, .product [.number b, .imaginary]] => some (a, b)
  | _ => none

end Term

namespace Power

open Term (ofInt ofRat)

/-- The integer whose power is closest from below. -/
def rootFloor (n k : Nat) : Nat :=
  if k = 0 then 0
  else if k = 1 then n
  else if k = 2 then n.sqrt
  else search (n.log2 / k + 2) 0 (Nat.pow 2 (n.log2 / k + 1))
where
  /-- Halves the interval from `low`, whose power is not too great, to `high`, whose is. -/
  search : Nat → Nat → Nat → Nat
    | 0, low, _ => low
    | fuel + 1, low, high =>
      if high ≤ low + 1 then low
      else
        let middle := (low + high) / 2
        if Nat.pow middle k ≤ n then search fuel middle high else search fuel low middle

/-- The prime factors below 2^15 with their exponents, and what is left. -/
def factorize (n : Nat) : List (Nat × Nat) :=
  loop (Nat.pow 2 15) 2 n []
where
  divide : Nat → Nat → Nat → Nat → Nat × Nat
    | 0, _, n, k => (n, k)
    | fuel + 1, d, n, k => if n % d = 0 then divide fuel d (n / d) (k + 1) else (n, k)
  loop : Nat → Nat → Nat → List (Nat × Nat) → List (Nat × Nat)
    | 0, _, n, found => if n = 1 then found.reverse else ((n, 1) :: found).reverse
    | fuel + 1, d, n, found =>
      if n = 1 then found.reverse
      else if n < d * d then ((n, 1) :: found).reverse
      else if n % d = 0 then
        let (rest, k) := divide (n.log2 + 1) d n 0
        loop fuel (d + 1) rest ((d, k) :: found)
      else loop fuel (d + 1) n found

/-- Beyond this many bits a whole power is not computed. -/
def greatestBits : Nat := Nat.pow 2 26

def fits (base : Nat) (exponent : Nat) : Bool :=
  base ≤ 1 || BigFloat.bitLength base * exponent ≤ greatestBits

structure Extraction where
  whole : Nat := 1
  roots : List Term := []
  left : List (Nat × Nat) := []

def extract (r : Rules) (e : Rat) (x : Extraction) (prime exponent : Nat) : Extraction :=
  let total := exponent * e.num.natAbs
  let out := total / e.den
  let rest := total % e.den
  let x := { x with whole := x.whole * Nat.pow prime out }
  if rest = 0 then x
  else
    let g := Nat.gcd rest e.den
    if g = 1 then { x with left := x.left ++ [(prime, rest)] }
    else
      let root := r.power (ofInt prime) (ofRat (mkRat (rest / g : Nat) (e.den / g)))
      { x with roots := x.roots ++ [root] }

def signPower (r : Rules) (negative : Bool) (e : Rat) (t : Term) : Term :=
  if negative then r.mul t (r.power .minusOne (ofRat e)) else t

/-- An integer other than zero, one and minus one to a positive rational exponent. -/
def integerRoot (r : Rules) (n : Int) (e : Rat) : Option Term :=
  let size := n.natAbs
  if e = 1 / 2 && n < 0 then some (r.mul .imaginary (r.sqrt (ofInt (-n))))
  else
    let root := rootFloor size e.den
    if Nat.pow root e.den = size then
      if fits root e.num.natAbs then
        some (signPower r (n < 0) e (ofInt (Nat.pow root e.num.natAbs)))
      else none
    else
      let x := (factorize size).foldl (fun x (p, k) => extract r e x p k) {}
      let g : Nat := x.left.foldl (fun (g : Nat) (_, k) => Nat.gcd g k) (0 : Nat)
      let inside : Nat := x.left.foldl (fun (m : Nat) (p, k) => m * Nat.pow p (k / g)) (1 : Nat)
      if inside = size && x.whole = 1 && x.roots.isEmpty then none
      else
        some <| signPower r (n < 0) e <|
          r.product (ofInt x.whole :: r.power (ofInt inside) (ofRat (mkRat g e.den)) :: x.roots)

def rationalPower (r : Rules) (q e : Rat) : Option Term :=
  if q.den = 1 then
    if e < 0 then
      if q = 0 then some .pole
      else if q.num < 0 then
        some (r.mul (r.power .minusOne (ofRat e)) (r.power (ofRat (-q)⁻¹) (ofRat (-e))))
      else some (r.power (ofRat q⁻¹) (ofRat (-e)))
    else if e.den = 1 then
      if fits q.num.natAbs e.num.natAbs then some (ofInt (Int.pow q.num e.num.natAbs)) else none
    else integerRoot r q.num e
  else if e < 0 then
    if e = -1 then some (ofRat q⁻¹)
    else if q.num < 0 then
      some (r.mul (r.power .minusOne (ofRat e)) (r.power (ofRat (-q⁻¹)) (ofRat (-e))))
    else some (r.power (ofRat q⁻¹) (ofRat (-e)))
  else if e.den = 1 then
    if fits (max q.num.natAbs q.den) e.num.natAbs then some (ofRat (q ^ e.num.natAbs)) else none
  else
    let whole := e.floor.toNat + 1
    let rest : Rat := whole - e
    let top := if q.num = 1 then [] else [r.power (ofInt q.num) (ofRat e)]
    let bottom := [r.power (ofInt q.den) (ofRat rest), ofRat (mkRat 1 (Nat.pow q.den whole))]
    some (r.product (top ++ bottom))

def minusOnePower (r : Rules) (e : Term) : Option Term :=
  match e with
  | .number (.ratio q) =>
    if q = 1 / 2 then some .imaginary
    else if q.den = 2 then some (r.power .imaginary (ofInt q.num))
    else
      let n := q.floor
      if n = 0 then none
      else some (r.mul (r.power .minusOne (ofInt n)) (r.power .minusOne (ofRat (q - n))))
  | .number (.float _ bits) => some (r.power (.number (.float (.ofInt (-1)) bits)) e)
  | .undefined | .infinity _ => some .undefined
  | _ => none

def complexTerm (r : Rules) (z : BigComplex) (bits : Nat) : Term :=
  Term.add (.number (.ofBigFloat (z.re.round bits) bits))
    (r.mul (.number (.ofBigFloat (z.im.round bits) bits)) .imaginary)

/-- A floating-point number to a numeric exponent. A negative base has complex powers unless the
exponent is whole. -/
def floatPower (r : Rules) (x : BigFloat) (bits : Nat) (e : Number) : Term :=
  match e with
  | .ratio q =>
    if q.den = 1 then .number (.ofBigFloat (BigFloat.powInt bits x q.num) bits)
    else if q.num = 1 && q.den % 2 = 1 && x.isNegative then
      r.mul (.power .minusOne (ofRat q)) (r.power (.number (.float x.neg bits)) (ofRat q))
    else general bits (BigFloat.ofRat bits q)
  | .float y more => general (max bits more) y
where
  general (bits : Nat) (y : BigFloat) : Term :=
    if y.isInteger && y.top ≤ 64 then .number (.ofBigFloat (BigFloat.powInt bits x y.floor) bits)
    else if y.exponent = -1 && y.top ≤ 64 then
      let guarded := bits + 32
      let root := BigComplex.sqrt guarded (.ofReal x)
      let n := y.mantissa
      let power := BigComplex.powNat guarded root (BigFloat.bitLength n.natAbs) n.natAbs .one
      complexTerm r (if n < 0 then (power.inverse? guarded).getD .zero else power) bits
    else if x.isNegative then
      match BigComplex.pow? (bits + 32) (.ofReal x) (.ofReal y) with
      | some z => complexTerm r z bits
      | none => .undefined
    else .number (.ofBigFloat (BigFloat.powReal bits x y) bits)

def zeroPower (r : Rules) (zero e : Term) : Option Term :=
  match e.sign? with
  | some .positive => some zero
  | some .negative => some .pole
  | _ =>
    if e.constantIsReal? = some false then some .undefined
    else
      let (c, s) := e.splitCoefficient
      if c.isNegative then some (r.power .pole s)
      else if c.isOne then none
      else some (r.power zero s)

def imaginaryPower (r : Rules) (e : Term) : Option Term :=
  match e with
  | .number (.ratio q) =>
    if q.den = 1 then
      match (q.num % 4).toNat with
      | 0 => some .one
      | 1 => some .imaginary
      | 2 => some .minusOne
      | _ => some (r.negate .imaginary)
    else
      let n := (q / 2).floor
      let rest := q - 2 * n
      let root : Term := if rest = 1 then .imaginary else .power .imaginary (ofRat rest)
      if n = 0 then none
      else some (if n % 2 = 0 then root else .product [.minusOne, root])
  | _ => none

def infinityPower (r : Rules) (negative : Bool) (e : Term) : Option Term :=
  if negative then
    match e.integer? with
    | some n =>
      if n < 0 then some .zero
      else some (.infinity (n % 2 = 1))
    | none =>
      if e.isNumber then some (r.mul (r.power .minusOne e) (r.power (.infinity false) e)) else none
  else
    match e.sign? with
    | some .positive => some (.infinity false)
    | some .negative => some .zero
    | _ => none

def polePower (e : Term) : Option Term :=
  match e with
  | .number n => some (if n.isZero then .undefined else if n.isNegative then .zero else .pole)
  | _ => none

def isHalf (e : Term) : Bool := e.rational?.any (·.den = 2)

/-- How often the angle of a constant, taken `e` times, passes half a turn. -/
def turnsOf (b e : Term) : Option Int := do
  let z ← b.constantValue
  let w ← e.constantValue
  if !w.isReal || z.isZero then none
  else
    let bits := Term.decisionBits
    let angle := BigFloat.angle bits z.im z.re
    let turns := BigFloat.div bits (BigFloat.mul bits w.re angle) ((BigFloat.pi bits).scale 1)
    some (BigFloat.sub bits ⟨1, -1⟩ turns).floor

def magnitudeBelow (bound : Int) (e : Term) : Bool :=
  match e.constantValue with
  | some z => z.isReal && z.re.abs.lt (.ofInt bound)
  | none => false

/-- A power of a power multiplies the exponents where the principal branch allows it. -/
def nested (r : Rules) (b e n : Term) : Option Term :=
  let merged (b : Term) : Option Term := some (r.power b (r.mul e n))
  if n.isInteger then merged b
  else if e.isReal? != some true then none
  else
    let reciprocal := e == .minusOne && isHalf n
    if reciprocal && b.isNegative then
      some (r.mul (r.power .minusOne n) (r.power (r.negate b) (r.mul e n)))
    else if reciprocal && b.isNegative? = some false then some (r.power b (r.negate n))
    else
      let b := if e.isEven && b.isReal? = some true then r.apply .abs b else b
      if magnitudeBelow 1 e || e.isOne then merged b
      else if b.isNonnegative then merged b
      else if magnitudeBelow 2 e && (b.constantValue.any fun z => !z.re.isNegative) then merged b
      else if isHalf n then
        match turnsOf b e, n.rational? with
        | some turns, some q =>
          let sign : Term := if (turns * q.num) % 2 = 0 then .one else .minusOne
          some (r.mul sign (r.power b (r.mul e n)))
        | _, _ => none
      else none

structure Factors where
  nonnegative : List Term := []
  negative : List Term := []
  other : List Term := []

def classify (fs : List Term) : Factors :=
  fs.foldl
    (fun c f =>
      if f.isNonnegative then { c with nonnegative := c.nonnegative ++ [f] }
      else if f.isNegative then { c with negative := c.negative ++ [f] }
      else { c with other := c.other ++ [f] })
    {}

/-- Moves the negative factors: an even number of signs cancels, and one that is left stays with the
factors of unknown sign. -/
def settleSigns (r : Rules) (c : Factors) : List Term × List Term :=
  match c.negative with
  | [] => (c.nonnegative, c.other)
  | [n] =>
    if c.other.isEmpty then (c.nonnegative, [n])
    else if n.isNumber && !(n == .minusOne) then
      (c.nonnegative ++ [r.negate n], c.other ++ [.minusOne])
    else (c.nonnegative, c.other ++ [n])
  | first :: rest =>
    let (start, ns) :=
      if c.other.isEmpty && first.isNumber then (first, rest) else (Term.one, first :: rest)
    let sign := if ns.length % 2 = 1 then r.negate start else start
    (c.nonnegative ++ ns.map r.negate, if sign.isOne then c.other else c.other ++ [sign])

def expandBase (r : Rules) (fs : List Term) (e : Term) : Term :=
  let (separate, other) := settleSigns r (classify fs)
  let rest := match other with
    | [] => []
    | [t] => [r.power t e]
    | ts => [.power (.product (Term.sorted ts)) e]
  if separate.isEmpty then .power (.product fs) e
  else r.product (separate.map (fun f => r.power f e) ++ rest)

def perfectSquare? (q : Rat) : Option Rat :=
  let n := q.num.natAbs.sqrt
  let d := q.den.sqrt
  if n * n = q.num.natAbs && d * d = q.den then some (mkRat n d) else none

/-- The root of an imaginary number that is twice a square. -/
def imaginaryRoot (r : Rules) (t : Term) (e : Rat) : Option Term :=
  match t.complexParts? with
  | some (.ratio a, .ratio b) =>
    if a = 0 && e.den = 2 then
      (perfectSquare? (if b < 0 then -b / 2 else b / 2)).map fun root =>
        r.mul (r.power (ofRat root) (ofInt e.num))
          (r.power (Term.add .one (if b < 0 then r.negate .imaginary else .imaginary))
            (ofInt e.num))
    else none
  | _ => none

def ofProduct (r : Rules) (fs : List Term) (e : Term) : Option Term :=
  match e with
  | .number (.ratio q) =>
    if q.den = 1 then some (r.product (fs.map fun f => r.power f e))
    else
      match imaginaryRoot r (.product fs) q with
      | some root => some root
      | none => some (expandBase r fs e)
  | .number (.float ..) => some (expandBase r fs e)
  | _ => none

/-- Divides a sum by its greatest coefficient when floating-point numbers occur among them. -/
def scaleSum (r : Rules) (ts : List Term) (e : Term) : Option Term :=
  let parts := ts.map Term.splitCoefficient
  if !parts.any fun (c, _) => c.isFloat then none
  else
    let greatest := parts.foldl
      (fun (big : Number) (c, _) => if c.abs.lt big then big else c.abs) (.ofInt (-1))
    if greatest.wholeValue? = some 1 || !greatest.isPositive then none
    else
      let scaled := parts.map fun (c, s) =>
        if c = greatest then s
        else if c = -greatest then s.withCoefficient (.ofInt (-1))
        else
          let d := c.div greatest
          match s with
          | .number _ => .number (match s with | .number m => d * m | _ => d)
          | s => s.withCoefficient d
      some (r.mul (r.power (.number greatest) e) (r.power (Term.sumOf scaled) e))

/-- A whole complex number to a power: its reciprocal, or a square root that is a whole complex
number too. -/
def complexPower (r : Rules) (a b : Number) (e : Rat) : Option Term :=
  let squares := a * a + b * b
  if e.den = 2 then
    match squares with
    | .ratio s =>
      (perfectSquare? s).bind fun d =>
        match a, b with
        | .ratio p, .ratio q =>
          let size := if q < 0 then -q else q
          let axis := if q < 0 then r.negate .imaginary else .imaginary
          let unit := Term.add (ofRat ((d + p) / size)) axis
          let root := r.sqrt (ofRat ((d - p) / 2))
          some (r.mul (r.power root (ofInt e.num)) (r.power unit (ofInt e.num)))
        | _, _ => none
    | _ => none
  else if e = -1 then
    let conjugate := Term.add (.number a) (r.mul (.number (-b)) .imaginary)
    some (r.mul conjugate (.number (Number.one.div squares)))
  else none

def ofSum (r : Rules) (ts : List Term) (e : Term) : Option Term :=
  if ts.any Term.isInfinite then none
  else match e with
  | .number n =>
    match n.ratio?, (Term.sum ts).isConstant with
    | some q, true =>
      (Term.sum ts).complexParts?.bind fun (a, b) => complexPower r a b q
    | _, _ => if n.abs.isOne then none else scaleSum r ts e
  | _ => none

/-- An exponent with the logarithm of the base as its only denominator makes a power of Euler's
number. -/
def viaLogarithm? (r : Rules) (b e : Term) : Option Term :=
  let isLog : Term → Bool
    | .power (.apply .log a) m => m == .minusOne && a == b
    | _ => false
  let isOtherDenominator : Term → Bool
    | .power _ m => m.rational?.any (· < 0)
    | _ => false
  match e with
  | .product fs =>
    if fs.any isLog then
      let rest := fs.filter fun f => !isLog f
      if rest.any isOtherDenominator then none
      else some (r.apply .exp (r.product rest))
    else none
  | t => if isLog t then some (r.apply .exp .one) else none

def byBase (r : Rules) (b e : Term) : Option Term :=
  match b with
  | .number (.ratio q) =>
    if q = 0 then zeroPower r b e
    else if q = -1 && !e.integer?.isSome then minusOnePower r e
    else
      match e with
      | .number (.ratio p) => rationalPower r q p
      | .number (.float _ bits) => some (r.power (.number (.float (BigFloat.ofRat bits q) bits)) e)
      | _ => none
  | .number (.float x bits) =>
    if x.isZero then
      match e.sign? with
      | some .positive => some b
      | some .negative => some .pole
      | _ => none
    else e.number?.map (floatPower r x bits)
  | .euler => some (r.apply .exp e)
  | .imaginary => imaginaryPower r e
  | .infinity negative => infinityPower r negative e
  | .pole => polePower e
  | .oscillation => some .oscillation
  | .power .. | .apply .exp _ =>
    let (b', e') := b.splitPower r.negate
    nested r b' e' e
  | .apply .abs a =>
    match e.integer? with
    | some n =>
      if a.isReal? = some true && n % 2 = 0 then some (r.power a e)
      else if a.isReal? = some true && n != -1 then some (r.mul (r.power a (ofInt (n - 1))) b)
      else none
    | none => none
  | .product fs => ofProduct r fs e
  | .sum ts => ofSum r ts e
  | _ => none

def numberToInfinity (n : Number) (negative : Bool) : Option Term :=
  let below := n.abs.lt 1
  if n.isOne then some .undefined
  else if below then
    if negative then some .pole else some .zero
  else if Number.one.lt n then
    if negative then some .zero else some (.infinity false)
  else none

def simplify (r : Rules) (b e : Term) : Term :=
  match e with
  | .pole => .undefined
  | .infinity negative =>
    match b with
    | .undefined => .undefined
    | .number n => (numberToInfinity n negative).getD (.power b e)
    | b => .power b e
  | e =>
    if e == .zero then .one
    else if e.isOne then b
    else if e == .minusOne && b.isZero then .pole
    else if b matches .undefined || e matches .undefined then .undefined
    else if b.isOne then .one
    else
      let signed := b.isNumber || (b.isProduct && b.isConstant)
      if signed && b.prefersMinus && e.isOdd then r.negate (r.power (r.negate b) e)
      else
        let b := if signed && b.prefersMinus && e.isEven then r.negate b else b
        if b.isOne then .one
        else
          match viaLogarithm? r b e with
          | some t => t
          | none => (byBase r b e).getD (.power b e)

end Power

end PlotLang.Algebra
