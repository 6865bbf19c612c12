import PlotLang.Algebra.Rules

/-! # Products

A product gathers its numbers into one, adds the exponents of equal bases, merges roots of rational
numbers, and counts the powers of minus one that occur in it. A number times a sum is multiplied
out when nothing else is in the product.
-/

namespace PlotLang.Algebra

namespace Product

def mulConstant (total o : Term) : Term :=
  match total, o with
  | .undefined, _ | _, .undefined => .undefined
  | .number a, .number b => .number (a * b)
  | .oscillation, .number n | .number n, .oscillation => if n.isZero then .zero else .oscillation
  | .oscillation, _ | _, .oscillation => .oscillation
  | .pole, .number n | .number n, .pole => if n.isZero then .undefined else .pole
  | .infinity a, .number n | .number n, .infinity a =>
    if n.isZero then .undefined else .infinity (a != n.isNegative)
  | .infinity a, .infinity b => .infinity (a != b)
  | _, _ => .pole

structure Gathered where
  constant : Term := .one
  powers : List (Term × Term) := []
  /-- Positive numbers with exponents that are not rational. -/
  numberPowers : List (Term × Term) := []
  /-- Positive rational numbers with rational exponents. -/
  roots : List (Rat × Rat) := []
  /-- The total exponent of minus one; the imaginary unit counts one half. -/
  turns : Rat := 0

def Gathered.times (g : Gathered) (t : Term) : Gathered :=
  { g with constant := mulConstant g.constant t }

def gatherRoot (g : Gathered) (base exponent : Rat) : Gathered :=
  let turned := if base < 0 then { g with turns := g.turns + exponent } else g
  let positive := if base < 0 then -base else base
  if positive = 1 then turned else { turned with roots := turned.roots ++ [(positive, exponent)] }

def gather (r : Rules) (g : Gathered) (t : Term) : Gathered :=
  if Sum.isConstantPart t then g.times t
  else match t with
  | .imaginary => { g with turns := g.turns + 1 / 2 }
  | .power (.number _) _ =>
    let (b, e) := t.splitPower r.negate
    match b, e.rational? with
    | .number (.ratio q), some p =>
      if p.den = 1 then g.times (r.power b e) else gatherRoot g q p
    | .number (.float ..), some _ => g.times (r.power b e)
    | _, _ =>
      if b.isPositive || e.isInteger then { g with numberPowers := g.numberPowers ++ [(b, e)] }
      else { g with powers := g.powers ++ [(b, e)] }
  | t => { g with powers := g.powers ++ [t.splitPower r.negate] }

/-- The exponents of one base, each a number times something; like ones are added. -/
def addExponent (groups : List (Term × List (Term × Number))) (b e : Term) :
    List (Term × List (Term × Number)) :=
  let (c, s) := e.splitCoefficient
  match groups with
  | [] => [(b, [(s, c)])]
  | (b', es) :: rest =>
    if b' == b then (b', Sum.addLike es s c) :: rest else (b', es) :: addExponent rest b e

def mergeExponents (r : Rules) (ps : List (Term × Term)) : List (Term × Term) :=
  (ps.foldl (fun groups (b, e) => addExponent groups b e) []).flatMap fun (b, es) =>
    es.map fun (s, c) => (b, if c.isZero then .zero else r.mul (.number c) s)

structure Powers where
  constant : Term
  factors : List Term := []
  powers : List (Term × Term) := []
  changed : Bool := false

def buildPower (r : Rules) (p : Powers) (b e : Term) : Powers :=
  if e.isZero then p
  else if e.isOne then
    if b.isNumber then { p with constant := mulConstant p.constant b }
    else { p with factors := p.factors ++ [b], powers := p.powers ++ [(b, e)] }
  else
    let t := r.power b e
    let isPower : Term → Bool
      | .power .. => true
      | _ => false
    let (b', e') := if isPower t && !isPower b then t.splitPower r.negate else (b, e)
    { p with
      factors := p.factors ++ [t]
      powers := p.powers ++ [(b', e')]
      changed := p.changed || !(b' == b) }

def hasRepeated : List Term → Bool
  | [] => false
  | t :: ts => ts.any (· == t) || hasRepeated ts

/-- Builds the powers; where building has turned bases into equal ones, merges and builds again. -/
def buildPowers (r : Rules) : Nat → Term → List (Term × Term) → Term × List Term
  | 0, constant, ps => (constant, ps.map fun (b, e) => r.power b e)
  | rounds + 1, constant, ps =>
    let p := ps.foldl (fun p (b, e) => buildPower r p b e) { constant := constant }
    if p.changed && hasRepeated (p.powers.map (·.1)) && rounds != 0 then
      buildPowers r rounds p.constant (mergeExponents r p.powers)
    else (p.constant, p.factors)

/-- Numbers raised to one exponent are multiplied first. -/
def joinBases (r : Rules) (ps : List (Term × Term)) : List (Term × Term) :=
  ps.foldl (fun joined (b, e) => insert joined b e) []
where
  insert (joined : List (Term × Term)) (b e : Term) : List (Term × Term) :=
    match joined with
    | [] => [(b, e)]
    | (b', e') :: rest =>
      if e' == e then (r.mul b' b, e') :: rest else (b', e') :: insert rest b e

def accumulate (combine : Rat → Rat → Rat) (entries : List (Rat × Rat)) (key value : Rat) :
    List (Rat × Rat) :=
  match entries with
  | [] => [(key, value)]
  | (k, v) :: rest =>
    if k = key then (k, combine v value) :: rest else (k, v) :: accumulate combine rest key value

def splitExponent (e : Rat) : Int × Rat :=
  if 1 < e then (e.floor, e - e.floor) else (0, e)

def rationalGcd (a b : Rat) : Rat :=
  mkRat (Nat.gcd a.num.natAbs b.num.natAbs : Nat) (Nat.lcm a.den b.den)

def ratPower (q : Rat) (n : Int) : Rat :=
  if n < 0 then (q ^ n.natAbs)⁻¹ else q ^ n.natAbs

structure Roots where
  factor : Rat := 1
  pending : List (Rat × Rat) := []

def Roots.push (s : Roots) (base exponent : Rat) : Roots :=
  if exponent.den = 1 then { s with factor := s.factor * ratPower base exponent.num }
  else
    let (n, e) := splitExponent exponent
    { factor := s.factor * ratPower base n, pending := s.pending ++ [(base, e)] }

/-- Takes out of one root what its base has in common with the others. -/
def shareBase (base exponent : Rat) :
    List (Rat × Rat) → Roots → Rat × List (Rat × Rat) × Roots
  | [], grown => (base, [], grown)
  | (b, e) :: rest, grown =>
    if base = 1 then (base, (b, e) :: rest, grown)
    else
      let g := rationalGcd base b
      if g = 1 then
        let (base', rest', grown') := shareBase base exponent rest grown
        (base', (b, e) :: rest', grown')
      else
        let grown := grown.push g (exponent + e)
        let (base', rest', grown') := shareBase (base / g) exponent rest grown
        (base', (b / g, e) :: rest', grown')

def addRoot (entries : List (Term × Term)) (b e : Term) (join : Term → Term → Term) :
    List (Term × Term) :=
  match entries with
  | [] => [(e, b)]
  | (e', b') :: rest =>
    if e' == e then (e', join b' b) :: rest else (e', b') :: addRoot rest b e join

/-- Reduces roots one after another; the answer lists exponents with their bases. -/
def reduceRoots (r : Rules) :
    Nat → List (Rat × Rat) → Term → List (Term × Term) → Term × List (Term × Term)
  | 0, _, constant, entries => (constant, entries)
  | _ + 1, [], constant, entries => (constant, entries)
  | fuel + 1, (base, exponent) :: rest, constant, entries =>
    if base = 1 then reduceRoots r fuel rest constant entries
    else
      let (left, rest', grown) := shareBase base exponent rest {}
      let constant := mulConstant constant (.ofRat grown.factor)
      let (constant, entries) :=
        if left = 1 then (constant, entries)
        else (r.power (.ofRat left) (.ofRat exponent)).factors.foldl
          (fun (c, es) f =>
            match f with
            | .power b e => (c, addRoot es b e r.mul)
            | f => (mulConstant c f, es))
          (constant, entries)
      reduceRoots r fuel (rest' ++ grown.pending) constant entries

def buildRoots (r : Rules) (roots : List (Rat × Rat)) (constant : Term) :
    Term × List (Term × Term) :=
  let byBase := roots.foldl (fun es (b, e) => accumulate (· + ·) es b e) []
  let byExponent := byBase.foldl (fun es (b, e) => accumulate (· * ·) es e b) []
  let start := byExponent.foldl (fun (s : Roots) (e, b) => s.push b e) {}
  reduceRoots r (16 * roots.length + 16) start.pending
    (mulConstant constant (.ofRat start.factor)) []

/-- The factors that an infinite constant leaves standing. -/
def surviving (constant : Term) (fs : List Term) : Term × List Term :=
  match constant with
  | .infinity negative =>
    let signs := fs.map fun f => (f, f.sign?)
    let flips := signs.countP fun (_, s) => s = some .negative
    let kept := signs.filterMap fun (f, s) =>
      if s = some .positive || s = some .negative then none else some f
    (.infinity (negative != (flips % 2 = 1)), kept)
  | .pole => (.pole, fs.filter fun f => !(f.isConstant && f.constantValue.any (!·.isZero)))
  | c => (c, fs)

def distribute (n : Number) (t : Term) : Term :=
  match t with
  | .number m => .number (n * m)
  | .infinity _ | .pole | .oscillation => mulConstant (.number n) t
  | t =>
    let (c, s) := t.splitCoefficient
    s.withCoefficient (n * c)

def assemble (constant : Term) (fs : List Term) : Term :=
  let (constant, fs) := surviving constant fs
  match constant with
  | .undefined => .undefined
  | .number n =>
    if n.isZero then
      if fs.any fun f => f.has Term.isInfinite then .undefined else .zero
    else
      let kept := Term.sorted fs
      match kept with
      | [.sum ts] =>
        if n.isOne then .sum ts else Term.sumOf (ts.map (distribute n))
      | _ => if n.isOne then Term.ofFactors kept else Term.ofFactors (.number n :: kept)
  | c => Term.ofFactors (c :: Term.sorted fs)

def absorb (constant : Term) (fs : List Term) : Term × List Term :=
  (fs.flatMap Term.factors).foldl
    (fun (c, kept) f => if Sum.isConstantPart f then (mulConstant c f, kept) else (c, kept ++ [f]))
    (constant, [])

/-- The factor that is left of a power of minus one: none, the imaginary unit, or a root. Another
root with the same exponent takes it in. -/
def buildTurns (turns : Rat) (roots : List (Term × Term)) : Bool × List Term × List (Term × Term) :=
  let n := turns.floor
  let rest := turns - n
  let odd := n % 2 = 1
  if rest = 0 then (odd, [], roots)
  else if rest = 1 / 2 then (odd, [.imaginary], roots)
  else
    let exponent := Term.ofRat rest
    if roots.any fun (e, _) => e == exponent then
      (odd, [], roots.map fun (e, b) =>
        if e == exponent then (e, (match b with | .number n => .number (-n) | b => b)) else (e, b))
    else (odd, [.power .minusOne exponent], roots)

def simplify (r : Rules) (ts : List Term) : Term :=
  let g := (ts.flatMap Term.factors).foldl (gather r) {}
  match g.constant with
  | .undefined => .undefined
  | start =>
    let (constant, fs) := buildPowers r 2 start (mergeExponents r g.powers)
    let numbers := (joinBases r (mergeExponents r g.numberPowers)).filterMap fun (b, e) =>
      if e.isZero then none else some (r.power b e)
    let (constant, roots) := buildRoots r g.roots constant
    let (odd, turned, roots) := buildTurns g.turns roots
    let constant := if odd then mulConstant constant .minusOne else constant
    let rootFactors := roots.map fun (e, b) => r.power b e
    let (constant, all) := absorb constant (fs ++ numbers ++ turned ++ rootFactors)
    assemble constant all

end Product

end PlotLang.Algebra
