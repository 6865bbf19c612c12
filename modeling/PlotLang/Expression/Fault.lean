import PlotLang.Diagnostic
import PlotLang.Text.Quoted

/-! # What can be wrong with a function

A fault is told with the function's text in its message, and with the text of the exception it comes
from if there is one. An exception that nothing handles is no fault.
-/

namespace PlotLang.Expression

def constantNames : List String := ["x", "pi", "E"]

/-- In ascending order, capitals first. -/
def functionNames : List String :=
  ["Abs", "abs", "acos", "asin", "atan", "ceiling", "cos", "cosh", "exp", "floor", "ln", "log",
   "sin", "sinh", "sqrt", "tan", "tanh"]

inductive Fault where
  /-- No character is shown if only blanks are left. -/
  | unexpectedCharacter (shown : String)
  | unknownName (called : Bool) (name : String)
  | invalid (reason : String)
  | notArithmetic
  | unknownVariable (name : String)
  | cannotCompile (reason : String)
  | cannotEvaluate (x reason : String)
  deriving DecidableEq, Repr

def Fault.message (text : String) : Fault → String
  | .unexpectedCharacter _ => "Invalid function '" ++ text ++ "'"
  | .unknownName called name =>
    let kind := if called then "function" else "variable"
    "Unknown " ++ kind ++ " '" ++ name ++ "' in function '" ++ text ++ "'"
  | .invalid reason => "Invalid function '" ++ text ++ "': " ++ reason
  | .notArithmetic => "Function '" ++ text ++ "' is not an arithmetic expression"
  | .unknownVariable name => "Unknown variable '" ++ name ++ "' in function '" ++ text ++ "'"
  | .cannotCompile reason => "Cannot compile function '" ++ text ++ "': " ++ reason
  | .cannotEvaluate x reason =>
    "Cannot evaluate function '" ++ text ++ "' at x=" ++ x ++ ": " ++ reason

def Fault.hint? : Fault → Option String
  | .unexpectedCharacter shown => some ("Unexpected character " ++ Text.Quoted.quote shown)
  | .unknownName _ _ =>
    some ("Functions may only use x, pi, E and " ++ ", ".intercalate functionNames)
  | .unknownVariable _ => some "Functions may only use x"
  | _ => none

def Fault.diagnostic (text : String) (f : Fault) : Diagnostic :=
  ⟨f.message text, none, f.hint?⟩

inductive Failure where
  | diagnosed (text : String) (fault : Fault)
  | raised (e : Raised)
  deriving DecidableEq, Repr

end PlotLang.Expression
