import PlotLang.Algebra.Approximation

/-! # What is known about a term

Whether a term is real, which sign it has, and whether it is an integer, as far as that can be told.
Constants are evaluated; a symbol stands for any complex number, so little is known of what it
occurs in.
-/

namespace PlotLang.Algebra

inductive Sign where
  | negative | nonpositive | zero | nonnegative | positive
  deriving DecidableEq, Repr

namespace Sign

def isNonnegative : Sign → Bool
  | .zero | .nonnegative | .positive => true
  | _ => false

def isNonpositive : Sign → Bool
  | .zero | .nonpositive | .negative => true
  | _ => false

def neg : Sign → Sign
  | .negative => .positive
  | .nonpositive => .nonnegative
  | .zero => .zero
  | .nonnegative => .nonpositive
  | .positive => .negative

def mul (a b : Sign) : Sign :=
  match a, b with
  | .zero, _ | _, .zero => .zero
  | .positive, s | s, .positive => s
  | .negative, s | s, .negative => s.neg
  | .nonnegative, s | s, .nonnegative => s
  | .nonpositive, .nonpositive => .nonnegative

def add? (a b : Sign) : Option Sign :=
  match a, b with
  | .zero, s | s, .zero => some s
  | _, _ =>
    if a.isNonnegative && b.isNonnegative then
      some (if a = .positive || b = .positive then .positive else .nonnegative)
    else if a.isNonpositive && b.isNonpositive then
      some (if a = .negative || b = .negative then .negative else .nonpositive)
    else none

def ofBigFloat (x : BigFloat) : Sign :=
  if x.isZero then .zero else if x.isNegative then .negative else .positive

end Sign

namespace Term

/-- Whether a constant is real; `none` for a term with symbols. -/
def constantIsReal? (t : Term) : Option Bool := t.constantValue.map BigComplex.isReal

mutual

/-- Whether a term has a real value, or a signed infinity, wherever its symbols lie. -/
def isReal? : Term → Option Bool
  | .number _ | .pi | .euler => some true
  | .imaginary => some false
  | .infinity _ => some true
  | .sum ts => if allReal ts then some true else constantIsReal? (.sum ts)
  | .product ts => if allReal ts then some true else constantIsReal? (.product ts)
  | .power b e =>
    match constantIsReal? (.power b e) with
    | some known => some known
    | none => if isReal? b = some true && e.integer?.isSome then some true else none
  | .apply .abs _ | .apply .re _ | .apply .im _ => some true
  | .apply f a =>
    match constantIsReal? (.apply f a) with
    | some known => some known
    | none =>
      match f with
      | .sin | .cos | .tan | .atan | .sinh | .cosh | .tanh | .asinh | .exp | .floor | .ceiling =>
        if isReal? a = some true then some true else none
      | _ => none
  | _ => none

def allReal : List Term → Bool
  | [] => true
  | t :: ts => isReal? t = some true && allReal ts

end

def constantSign? (t : Term) : Option Sign :=
  match t.constantValue with
  | some z => if z.isReal then some (.ofBigFloat z.re) else none
  | none => none

mutual

/-- The sign of a term known to be real. -/
def sign? : Term → Option Sign
  | .number n =>
    some (if n.isZero then .zero else if n.isNegative then .negative else .positive)
  | .pi | .euler => some .positive
  | .infinity negative => some (if negative then .negative else .positive)
  | .sum ts =>
    match constantSign? (.sum ts) with
    | some known => some known
    | none => signOfSum ts
  | .product ts =>
    match constantSign? (.product ts) with
    | some known => some known
    | none => signOfProduct ts
  | .power b e =>
    match constantSign? (.power b e) with
    | some known => some known
    | none =>
      match sign? b with
      | some .positive => if isReal? e = some true then some .positive else none
      | some .nonnegative => if isReal? e = some true then some .nonnegative else none
      | _ =>
        match e.integer? with
        | some n => if n % 2 = 0 && isReal? b = some true then some .nonnegative else none
        | none => none
  | .apply .abs a =>
    match constantSign? (.apply .abs a) with
    | some known => some known
    | none => some .nonnegative
  | .apply .exp a => if isReal? a = some true then some .positive else none
  | .apply f a =>
    match constantSign? (.apply f a) with
    | some known => some known
    | none =>
      match f with
      | .cosh => if isReal? a = some true then some .positive else none
      | .sinh | .atan | .asinh | .tanh => sign? a
      | _ => none
  | _ => none

def signOfSum : List Term → Option Sign
  | [] => some .zero
  | t :: ts => do Sign.add? (← sign? t) (← signOfSum ts)

def signOfProduct : List Term → Option Sign
  | [] => some .positive
  | t :: ts => do return Sign.mul (← sign? t) (← signOfProduct ts)

end

def isNonnegative (t : Term) : Bool := (t.sign?.map Sign.isNonnegative).getD false

def isPositive (t : Term) : Bool := t.sign? = some .positive

def isNegative (t : Term) : Bool := t.sign? = some .negative

/-- Whether the sign is known and not negative-free: strictly below zero, or strictly not. -/
def isNegative? (t : Term) : Option Bool :=
  t.sign?.bind fun
    | .negative => some true
    | .nonpositive => none
    | _ => some false

/-- A non-zero real multiple of the imaginary unit. -/
def isImaginary (t : Term) : Bool :=
  match t.constantValue with
  | some z => z.re.isZero && !z.im.isZero
  | none => false

mutual

/-- Whether a term is known to be an integer. -/
def isInteger : Term → Bool
  | .number n => n.integer?.isSome
  | .sum ts => allInteger ts
  | .product ts => allInteger ts
  | .power b e => isInteger b && (e.integer?.any (0 ≤ ·))
  | .apply .floor a | .apply .ceiling a => isReal? a = some true && isConstant a
  | .apply .abs a => isInteger a
  | _ => false

def allInteger : List Term → Bool
  | [] => true
  | t :: ts => isInteger t && allInteger ts

end

def isEven (t : Term) : Bool := t.integer?.any (· % 2 = 0)

def isOdd (t : Term) : Bool := t.integer?.any (· % 2 = 1)

end Term

end PlotLang.Algebra
