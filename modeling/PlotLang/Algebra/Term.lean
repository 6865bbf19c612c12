import PlotLang.Algebra.Number

/-! # Terms of the algebra

A term is an expression in canonical form: sums and products are flat and ordered, with a number in
front if there is one. The constructors build terms as they are; the simplifying operations are
defined in the modules that follow.
-/

namespace PlotLang.Algebra

inductive Function where
  | sin | cos | tan
  | asin | acos | atan
  | sinh | cosh | tanh
  | asinh | atanh
  | exp | log
  | abs | floor | ceiling
  | re | im
  deriving DecidableEq, Repr

def Function.rank : Function → Nat
  | .sin => 0 | .cos => 1 | .tan => 2
  | .asin => 3 | .acos => 4 | .atan => 5
  | .sinh => 6 | .cosh => 7 | .tanh => 8
  | .asinh => 9 | .atanh => 10
  | .exp => 11 | .log => 12
  | .abs => 13 | .floor => 14 | .ceiling => 15
  | .re => 16 | .im => 17

inductive Term where
  | number (value : Number)
  | symbol (name : String)
  | pi
  | euler
  | imaginary
  /-- Signed infinity. -/
  | infinity (negative : Bool)
  /-- Infinity without direction, such as one over zero. -/
  | pole
  /-- No value at all. -/
  | undefined
  /-- A value known only to oscillate between bounds. -/
  | oscillation
  | sum (terms : List Term)
  | product (factors : List Term)
  | power (base exponent : Term)
  | apply (function : Function) (argument : Term)
  /-- A call of a function nothing is known about. -/
  | call (name : String) (arguments : List Term)
  /-- Several values in an argument of such a call. -/
  | tuple (items : List Term)

instance : Inhabited Term := ⟨.undefined⟩

namespace Term

def ofInt (n : Int) : Term := .number (.ofInt n)

def ofRat (q : Rat) : Term := .number (.ratio q)

def zero : Term := ofInt 0

def one : Term := ofInt 1

def minusOne : Term := ofInt (-1)

def half : Term := ofRat (1 / 2)

def rank : Term → Nat
  | .number _ => 0
  | .infinity _ => 1
  | .pole => 2
  | .undefined => 3
  | .oscillation => 4
  | .pi => 5
  | .euler => 6
  | .imaginary => 7
  | .symbol _ => 8
  | .power .. => 9
  | .apply .. => 10
  | .call .. => 11
  | .sum _ => 12
  | .product _ => 13
  | .tuple _ => 14

mutual

/-- A total order on terms; two terms are the same exactly when it answers `eq`. -/
def order : Term → Term → Ordering
  | .number a, .number b => a.order b
  | .symbol a, .symbol b => compare a b
  | .infinity a, .infinity b => compare a.toNat b.toNat
  | .sum as, .sum bs => orderAll as bs
  | .product as, .product bs => orderAll as bs
  | .power a m, .power b n => (order a b).then (order m n)
  | .apply f a, .apply g b => (compare f.rank g.rank).then (order a b)
  | .call f as, .call g bs => (compare f g).then (orderAll as bs)
  | .tuple as, .tuple bs => orderAll as bs
  | a, b => compare a.rank b.rank

def orderAll : List Term → List Term → Ordering
  | [], [] => .eq
  | [], _ :: _ => .lt
  | _ :: _, [] => .gt
  | a :: as, b :: bs => (order a b).then (orderAll as bs)

end

def same (a b : Term) : Bool := order a b = .eq

instance : BEq Term := ⟨same⟩

mutual

def size : Term → Nat
  | .sum ts => sizeAll ts + 1
  | .product ts => sizeAll ts + 1
  | .power b e => size b + size e + 1
  | .apply _ a => size a + 1
  | .call _ ts => sizeAll ts + 1
  | .tuple ts => sizeAll ts + 1
  | _ => 1

def sizeAll : List Term → Nat
  | [] => 0
  | t :: ts => size t + sizeAll ts

end

mutual

/-- Whether some part of a term, the whole included, satisfies a test. -/
def has (test : Term → Bool) : Term → Bool
  | t@(.sum ts) => test t || hasAny test ts
  | t@(.product ts) => test t || hasAny test ts
  | t@(.power b e) => test t || has test b || has test e
  | t@(.apply _ a) => test t || has test a
  | t@(.call _ ts) => test t || hasAny test ts
  | t@(.tuple ts) => test t || hasAny test ts
  | t => test t

def hasAny (test : Term → Bool) : List Term → Bool
  | [] => false
  | t :: ts => has test t || hasAny test ts

end

mutual

def symbols : Term → List String
  | .symbol name => [name]
  | .sum ts => symbolsAll ts
  | .product ts => symbolsAll ts
  | .power b e => symbols b ++ symbols e
  | .apply _ a => symbols a
  | .call _ ts => symbolsAll ts
  | .tuple ts => symbolsAll ts
  | _ => []

def symbolsAll : List Term → List String
  | [] => []
  | t :: ts => symbols t ++ symbolsAll ts

end

/-- A term without symbols and unknown calls. -/
def isConstant (t : Term) : Bool :=
  !t.has fun
    | .symbol _ | .call .. | .tuple _ => true
    | _ => false

def number? : Term → Option Number
  | .number n => some n
  | _ => none

def rational? : Term → Option Rat
  | .number (.ratio q) => some q
  | _ => none

def integer? : Term → Option Int
  | .number n => n.integer?
  | _ => none

def isNumber (t : Term) : Bool := t.number?.isSome

def isZero : Term → Bool
  | .number n => n.isZero
  | _ => false

def isOne : Term → Bool
  | .number n => n.isOne
  | _ => false

def isSum : Term → Bool
  | .sum _ => true
  | _ => false

def isProduct : Term → Bool
  | .product _ => true
  | _ => false

def isInfinite : Term → Bool
  | .infinity _ | .pole => true
  | _ => false

def terms : Term → List Term
  | .sum ts => ts
  | t => [t]

def factors : Term → List Term
  | .product ts => ts
  | t => [t]

/-- A product of factors that are already in canonical form. -/
def ofFactors : List Term → Term
  | [] => one
  | [t] => t
  | ts => .product ts

def ofTerms : List Term → Term
  | [] => zero
  | [t] => t
  | ts => .sum ts

/-- The number in front of a term, and what it multiplies. -/
def splitCoefficient : Term → Number × Term
  | .number n => (n, one)
  | .product (.number n :: rest) => (n, ofFactors rest)
  | t => (.one, t)

/-- A number times a term that has no number in front. -/
def withCoefficient (n : Number) (t : Term) : Term :=
  if n.isOne then t
  else match t with
    | .number m => .number (n * m)
    | .product fs => .product (.number n :: fs)
    | t => .product [.number n, t]

/-- The base and exponent of a term seen as a power. A reciprocal of an integer in the base moves
its sign to the exponent. -/
def splitPower (negate : Term → Term) : Term → Term × Term
  | .power (.number (.ratio q)) e =>
    if q.num = 1 && q.den != 1 then (ofInt q.den, negate e) else (.number (.ratio q), e)
  | .power b e => (b, e)
  | .apply .exp a => (.euler, a)
  | t => (t, one)

def sorted (ts : List Term) : List Term :=
  ts.mergeSort fun a b => (order a b).isLE

end Term

end PlotLang.Algebra
