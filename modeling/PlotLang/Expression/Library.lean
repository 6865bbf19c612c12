import PlotLang.Diagnostic
import PlotLang.Number.Decimal

/-! # The library of functions

The program reads a function and computes its values by a library that it does not know from within.
A library is given by its answers, each of which may be an exception instead.
-/

namespace PlotLang

/-- A position on the horizontal axis, with the text it is shown by. A whole number is shown without
a point. -/
inductive Abscissa where
  | whole (n : Int)
  | real (x : Binary64)
  deriving DecidableEq

namespace Abscissa

def value : Abscissa → Binary64
  | .whole n => .ofInt n
  | .real x => x

def text : Abscissa → String
  | .whole n => toString n
  | .real x => Decimal.shortest x

end Abscissa

namespace Expression

inductive Sampled where
  | real (y : Binary64)
  | complex (re im : Binary64)

/-- The number at which a curve is drawn: a complex value counts only if it is real. -/
def Sampled.number : Sampled → Binary64
  | .real y => y
  | .complex re im => if im.isZero then re else .nan

abbrev Evaluator : Type := Abscissa → Except Raised Sampled

/-- What a library reads in a text, and its answers to what is asked of that in this order. -/
structure Parsed where
  isArithmetic : Bool
  /-- The names in it that are not the variable. -/
  names : Except Raised (List String)
  /-- Puts undefined values for poles. -/
  settled : Except Raised Unit
  /-- Makes what is settled ready to be called. -/
  evaluator : Except Raised Evaluator

abbrev Library : Type := String → Except Raised Parsed

/-- Reads the variable and nothing else. -/
def Library.identity : Library := fun text =>
  if text = "x" then
    .ok ⟨true, .ok [], .ok (), .ok fun x => .ok (.real x.value)⟩
  else .error ⟨"SyntaxError", [.ordinary, .grammar], "invalid syntax"⟩

end Expression

end PlotLang
