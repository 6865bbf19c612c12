import PlotLang.Expression.Library
import PlotLang.Expression.Meaning
import PlotLang.Expression.Sampling

/-! # The library that the program runs with

A text is read as a formula, which denotes a term. Where a value has a pole or is undefined whatever
the variable is, the whole function is undefined; a number too great for a double makes the
evaluation fail. A function that is known only to oscillate cannot be written down for evaluation.
The texts of its exceptions are left out.
-/

namespace PlotLang.Expression.Calculator

open PlotLang.Algebra (Term)

/-- Whether a pole is part of a term outside the arguments of unknown functions. -/
def hasPole (t : Term) : Bool :=
  match t with
  | .pole => true
  | .sum ts => ts.attach.any fun ⟨t, _⟩ => hasPole t
  | .product ts => ts.attach.any fun ⟨t, _⟩ => hasPole t
  | .power b e => hasPole b || hasPole e
  | .apply _ a => hasPole a
  | _ => false

/-- Whether an exact number has too many digits to be written. -/
def isTooLong : Term → Bool
  | .number (.ratio q) =>
    let bound := Nat.pow 10 Lexeme.greatestDigits
    bound ≤ q.num.natAbs || bound ≤ q.den
  | _ => false

def isOscillation : Term → Bool
  | .oscillation => true
  | _ => false

def evaluator (t : Term) : Evaluator := fun x =>
  match (Sampling.eval x.value.toFloat t).bind Value.sampled? with
  | some y => .ok y
  | none => .error ⟨"ArithmeticError", [.ordinary, .arithmetic], ""⟩

def lower (t : Term) : Except Raised Evaluator :=
  if t.has isOscillation then .error ⟨"PrintMethodNotImplementedError", [.ordinary], ""⟩
  else if t.has isTooLong then .error (.ofValue "")
  else .ok (evaluator t)

def ofTerm (t : Term) : Parsed where
  isArithmetic := true
  names := .ok (t.symbols.filter (· != "x"))
  settled := .ok ()
  evaluator := lower (if hasPole t then .undefined else t)

def notArithmetic : Parsed := ⟨false, .ok [], .ok (), .ok (evaluator .undefined)⟩

def library : Library := fun text =>
  match (Formula.ofText? text).bind Meaning.of? with
  | none => .error ⟨"SyntaxError", [.ordinary, .grammar], ""⟩
  | some (.term t) => .ok (ofTerm t)
  | some _ => .ok notArithmetic

end PlotLang.Expression.Calculator
