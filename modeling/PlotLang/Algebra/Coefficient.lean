import PlotLang.Algebra.Power

/-! # Coefficients

What a term multiplies the imaginary unit or the number pi by, and the multiples of pi in a sum.
-/

namespace PlotLang.Algebra.Term

def isImaginaryUnit : Term → Bool
  | .imaginary => true
  | _ => false

def isPi : Term → Bool
  | .pi => true
  | _ => false

/-- The rest of a product that has exactly one factor of a kind. -/
def without? (r : Rules) (kind : Term → Bool) (t : Term) : Option Term :=
  if kind t then some .one
  else match t with
    | .product fs =>
      if fs.countP kind = 1 then some (r.product (fs.filter fun f => !kind f)) else none
    | _ => none

def withoutAll? (r : Rules) (kind : Term → Bool) : List Term → Option (List Term)
  | [] => some []
  | t :: ts => do return (← without? r kind t) :: (← withoutAll? r kind ts)

def imaginaryCoefficient? (r : Rules) (t : Term) : Option Term :=
  let found := match t with
    | .sum ts => (withoutAll? r isImaginaryUnit ts).map sumOf
    | t => without? r isImaginaryUnit t
  found.bind fun c => if c.has isImaginaryUnit then none else some c

def turnCoefficient? (r : Rules) (t : Term) : Option Rat := do
  let c ← without? r isPi (← without? r isImaginaryUnit t)
  c.rational?

/-- A floating-point coefficient that is a multiple of the power of two nearest to its fractional
part is taken as exact. -/
def exactBinary (c : Number) : Number :=
  match c with
  | .ratio _ => c
  | .float x bits =>
    let fraction := BigFloat.sub bits x.abs (.ofInt x.abs.floor)
    if fraction.isZero then .ofInt x.floor
    else
      let logarithm := BigFloat.div 64 (BigFloat.log 64 fraction) (BigFloat.log 64 (.ofInt 2))
      if (x.scale (-logarithm.nearest)).isInteger then .ratio x.toRat else c

def modTwo (q : Rat) : Rat := q - 2 * (q / 2).floor

/-- The coefficient of pi in a term that is a multiple of it, a rational one between zero and
two. -/
def piCoefficient? (r : Rules) (t : Term) : Option Term :=
  match t with
  | .pi => some .one
  | .product _ =>
    (without? r isPi t).map fun c =>
      let (n, rest) := c.splitCoefficient
      match exactBinary n with
      | .ratio q => if rest.isOne then ofRat (modTwo q) else r.scale q rest
      | .float x bits => rest.withCoefficient (.float x bits)
  | t => if t.isZero then some .zero else none

/-- A sum without the multiples of half pi in it, and that multiple of pi. -/
def peelPi (r : Rules) (ts : List Term) : Option (Term × Rat) :=
  let rational (t : Term) : Option Rat := (without? r isPi t).bind rational?
  let total := (ts.filterMap rational).foldl (· + ·) 0
  let rest := ts.filter fun t => (rational t).isNone
  let whole : Rat := mkRat (2 * total).floor 2
  if total = 0 || whole = 0 then none
  else some (sumOf (rest ++ [r.scale (total - whole) .pi]), whole)

end PlotLang.Algebra.Term
