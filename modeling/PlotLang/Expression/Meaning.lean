import PlotLang.Algebra.Simplify
import PlotLang.Expression.Formula

/-! # What a formula means

A formula denotes a term in canonical form, several values, or the one function that has a name
without being called. Calls of unknown names are kept; anything else that cannot be computed has no
meaning.
-/

namespace PlotLang.Expression

open PlotLang.Algebra

inductive Meaning where
  | term (value : Term)
  | tuple (items : List Meaning)
  | function

namespace Formula

mutual

def size : Formula → Nat
  | .tuple items => sizeAll items + 1
  | .spread f => size f + 1
  | .sign _ f => size f + 1
  | .binary _ a b => size a + size b + 1
  | .attribute f _ => size f + 1
  | .call f arguments => size f + sizeAll arguments + 1
  | _ => 1

def sizeAll : List Formula → Nat
  | [] => 0
  | f :: fs => size f + sizeAll fs

end

end Formula

namespace Meaning

def term? : Meaning → Option Term
  | .term t => some t
  | _ => none

mutual

def argument? : Meaning → Option Term
  | .term t => some t
  | .tuple items => (arguments? items).map .tuple
  | .function => none

def arguments? : List Meaning → Option (List Term)
  | [] => some []
  | m :: ms => do return (← argument? m) :: (← arguments? ms)

end

/-- The name of the function that may stand alone. -/
def bareFunction : String := "E1"

def ofName (text : String) : Meaning :=
  if text = "pi" then .term .pi
  else if text = "E" then .term .euler
  else if text = bareFunction then .function
  else .term (.symbol text)

def unaryFunction? (name : String) : Option Algebra.Function :=
  match name with
  | "sin" => some .sin
  | "cos" => some .cos
  | "tan" => some .tan
  | "asin" => some .asin
  | "acos" => some .acos
  | "atan" => some .atan
  | "sinh" => some .sinh
  | "cosh" => some .cosh
  | "tanh" => some .tanh
  | "exp" => some .exp
  | "log" | "ln" => some .log
  | "abs" | "Abs" => some .abs
  | "floor" => some .floor
  | "ceiling" => some .ceiling
  | _ => none

/-- Zero and the empty tuple. -/
def isFalse : Meaning → Bool
  | .term t => t.isZero
  | .tuple items => items.isEmpty
  | .function => false

def callKnown (r : Rules) (name : String) (arguments : List Meaning) : Option Term :=
  match name, arguments with
  | "sqrt", [.term a] => some (r.sqrt a)
  | "sqrt", [.term a, simplified] =>
    some (if simplified.isFalse then .power a .half else r.sqrt a)
  | "log", [.term a, .term b] | "ln", [.term a, .term b] => some (Exponential.logBase r a b)
  | "exp", [.tuple items] => (arguments? items).map fun ts => .call "exp" [.tuple ts]
  | name, [.term a] => (unaryFunction? name).map fun f => r.apply f a
  | _, _ => none

def callBare (arguments : List Meaning) : Option Term :=
  match arguments with
  | [.term a] => some (.call bareFunction [a])
  | _ => none

/-- The functions that a written number also has as attributes; called, they take nothing. -/
def callMethod (r : Rules) (name : String) (n : Number) (arguments : List Meaning) :
    Option Meaning :=
  if name ∈ ["floor", "ceiling"] && arguments.isEmpty then
    (callKnown r name [.term (.number n)]).map .term
  else none

/-- Division of numbers is exact where both are. -/
def divide (r : Rules) (a b : Term) : Term :=
  match a, b with
  | .number m, .number n =>
    if n.isZero then if m.isZero then .undefined else .pole else .number (m.div n)
  | a, b => r.div a b

/-- An integer divided by a floating-point number is divided exactly and rounded down; where what is
left over equals the divisor as it is known, it goes in once more. -/
def floorDivideFloat (m : Int) (x : BigFloat) (bits : Nat) : Int :=
  let exact := (m : Rat) / x.toRat
  let below := if 0 ≤ exact then exact.floor else -(-exact).floor - 1
  let divisor : Number := .float x bits
  let left := (Number.ofInt m).sub (divisor * .ofInt below)
  if left = divisor then below + 1 else below

def floorDivide (r : Rules) (a b : Term) : Option Term :=
  match a.integer?, b with
  | some m, .number (.float x bits) =>
    if x.isZero then none else some (.ofInt (floorDivideFloat m x bits))
  | some m, .infinity negative =>
    some (if m = 0 || (m < 0) = negative then .zero else .minusOne)
  | some m, b =>
    match b.integer? with
    | some n => if n = 0 then none else some (.ofInt (Int.fdiv m n))
    | none => some (r.apply .floor (divide r a b))
  | none, b => some (r.apply .floor (divide r a b))

def combine (r : Rules) (o : Operator) (a b : Meaning) : Option Meaning :=
  match o, a, b with
  | .plus, .tuple as, .tuple bs => some (.tuple (as ++ bs))
  | .times, .tuple items, .term t | .times, .term t, .tuple items =>
    t.integer?.map fun n => .tuple (List.replicate n.toNat items).flatten
  | .plus, .term a, .term b => some (.term (Term.add a b))
  | .minus, .term a, .term b => some (.term (r.sub a b))
  | .times, .term a, .term b => some (.term (r.mul a b))
  | .divide, .term a, .term b => some (.term (divide r a b))
  | .floorDivide, .term a, .term b => (floorDivide r a b).map .term
  | .power, .term a, .term b => some (.term (r.power a b))
  | _, _, _ => none

mutual

def ofFormula (r : Rules) : Formula → Option Meaning
  | .number n => some (.term (.number n))
  | .name text _ => some (ofName text)
  | .tuple items => (ofFormulas r items).map .tuple
  | .spread _ => none
  | .sign negative f => do
    let t ← (← ofFormula r f).term?
    some (.term (if negative then r.negate t else t))
  | .binary o a b => do combine r o (← ofFormula r a) (← ofFormula r b)
  | .call (.name text called) arguments => do
    let values ← ofFormulas r arguments
    if text ∈ functionNames then (callKnown r text values).map .term
    else if text = bareFunction then (callBare values).map .term
    else if called && text ∉ constantNames then
      (arguments? values).map fun ts => .term (.call text ts)
    else none
  | .attribute _ _ => none
  | .call (.attribute (.number n) name) arguments => do
    callMethod r name n (← ofFormulas r arguments)
  | .call f arguments => do
    match ← ofFormula r f with
    | .function => (callBare (← ofFormulas r arguments)).map .term
    | _ => none

def ofFormulas (r : Rules) : List Formula → Option (List Meaning)
  | [] => some []
  | .spread f :: fs => do
    match ← ofFormula r f with
    | .tuple items => return items ++ (← ofFormulas r fs)
    | _ => none
  | f :: fs => do return (← ofFormula r f) :: (← ofFormulas r fs)

end

/-- What a formula means by rules deep enough for its size. -/
def of? (f : Formula) : Option Meaning := ofFormula (Rules.forSize f.size) f

end Meaning

end PlotLang.Expression
