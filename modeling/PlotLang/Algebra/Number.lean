import PlotLang.Algebra.BigFloat

/-! # Numbers of the algebra

A number is a ratio of integers, which is exact, or a floating-point number that carries the number
of bits it is known to. A result with a floating-point operand keeps the greater number of bits. A
floating-point result that is zero is the exact zero.
-/

namespace PlotLang.Algebra

inductive Number where
  | ratio (value : Rat)
  | float (value : BigFloat) (bits : Nat)
  deriving DecidableEq

namespace Number

def ofInt (n : Int) : Number := .ratio n

def zero : Number := .ratio 0

def one : Number := .ratio 1

instance : Inhabited Number := ⟨zero⟩

def isFloat : Number → Bool
  | .float .. => true
  | .ratio _ => false

def bits : Number → Nat
  | .float _ bits => bits
  | .ratio _ => 0

def isZero : Number → Bool
  | .ratio q => q.num = 0
  | .float x _ => x.isZero

def isNegative : Number → Bool
  | .ratio q => q.num < 0
  | .float x _ => x.isNegative

def isPositive (n : Number) : Bool := !n.isZero && !n.isNegative

/-- The exact number one; a floating-point one is another number. -/
def isOne (n : Number) : Bool := n = one

/-- The integer an exact number is. -/
def integer? : Number → Option Int
  | .ratio q => if q.den = 1 then some q.num else none
  | .float .. => none

/-- The integer a number equals, exact or not. -/
def wholeValue? : Number → Option Int
  | .ratio q => if q.den = 1 then some q.num else none
  | .float x _ => if x.isInteger then some x.floor else none

def ratio? : Number → Option Rat
  | .ratio q => some q
  | .float .. => none

/-- The value as a floating-point number of at least `bits` bits. -/
def toBigFloat (bits : Nat) : Number → BigFloat
  | .ratio q => BigFloat.ofRat bits q
  | .float x _ => x

/-- A floating-point result; zero is exact. -/
def ofBigFloat (x : BigFloat) (bits : Nat) : Number :=
  if x.isZero then zero else .float x bits

def neg : Number → Number
  | .ratio q => .ratio (-q)
  | .float x bits => .float x.neg bits

def abs (n : Number) : Number := if n.isNegative then n.neg else n

def binary (exact : Rat → Rat → Rat) (rounded : Nat → BigFloat → BigFloat → BigFloat) :
    Number → Number → Number
  | .ratio p, .ratio q => .ratio (exact p q)
  | a, b =>
    let bits := max a.bits b.bits
    ofBigFloat (rounded bits (a.toBigFloat bits) (b.toBigFloat bits)) bits

def add : Number → Number → Number := binary (· + ·) BigFloat.add

def sub (a b : Number) : Number := a.add b.neg

def mul : Number → Number → Number := binary (· * ·) BigFloat.mul

/-- An exact dividend is multiplied by the rounded reciprocal of a floating-point divisor. The
divisor is not zero. -/
def div (a b : Number) : Number :=
  match a, b with
  | .ratio p, .ratio q => .ratio (p / q)
  | .ratio _, .float y bits => a.mul (ofBigFloat (BigFloat.div bits (.ofInt 1) y) bits)
  | _, _ =>
    let bits := max a.bits b.bits
    ofBigFloat (BigFloat.div bits (a.toBigFloat bits) (b.toBigFloat bits)) bits

def floor : Number → Int
  | .ratio q => q.floor
  | .float x _ => x.floor

def ceil (n : Number) : Int := -n.neg.floor

def lt (a b : Number) : Bool :=
  match a, b with
  | .ratio p, .ratio q => p < q
  | _, _ => (a.sub b).isNegative

/-- A total order in which exact numbers come first. -/
def order : Number → Number → Ordering
  | .ratio p, .ratio q => if p < q then .lt else if p = q then .eq else .gt
  | .ratio _, .float .. => .lt
  | .float .., .ratio _ => .gt
  | .float x _, .float y _ => if x.lt y then .lt else if x = y then .eq else .gt

instance : Add Number := ⟨add⟩
instance : Mul Number := ⟨mul⟩
instance : Neg Number := ⟨neg⟩
instance (n : Nat) : OfNat Number n := ⟨.ratio (n : Rat)⟩

end Number

end PlotLang.Algebra
