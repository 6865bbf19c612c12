import PlotLang.Expression.Library
import PlotLang.Expression.Vocabulary

/-! # Functions of one variable

A text is compiled once and evaluated at any abscissa. Both are done by the library; of the
exceptions it raises some are told as faults of the function, and the others are passed on.
-/

namespace PlotLang.Expression

structure Compiled where
  text : String
  call : Evaluator

def parsingKinds : List Raised.Kind := [.ordinary]

def loweringKinds : List Raised.Kind := [.key, .name, .grammar, .type, .value]

def callingKinds : List Raised.Kind := [.arithmetic, .type, .value, .name]

/-- What an exception means under a handler of some kinds. -/
def Failure.ofRaised (kinds : List Raised.Kind) (text : String) (fault : String → Fault)
    (e : Raised) : Failure :=
  if e.isAny kinds then .diagnosed text (fault e.text) else .raised e

def leastName? (names : List String) : Option String :=
  (names.mergeSort fun a b => a ≤ b).head?

/-- Makes a function of what the library has read. -/
def Parsed.compile (text : String) (parsed : Parsed) : Except Failure Compiled :=
  if parsed.isArithmetic then do
    match leastName? (← parsed.names.mapError .raised) with
    | some name => throw (.diagnosed text (.unknownVariable name))
    | none => do
      parsed.settled.mapError .raised
      let call ← parsed.evaluator.mapError (.ofRaised loweringKinds text .cannotCompile)
      return ⟨text, call⟩
  else throw (.diagnosed text .notArithmetic)

def compile (library : Library) (text : String) : Except Failure Compiled := do
  (Vocabulary.check text).mapError (.diagnosed text)
  let parsed ← (library text).mapError (.ofRaised parsingKinds text .invalid)
  parsed.compile text

def Compiled.evaluate (f : Compiled) (x : Abscissa) : Except Failure Binary64 :=
  match f.call x with
  | .ok y => .ok y.number
  | .error e => .error (.ofRaised callingKinds f.text (.cannotEvaluate x.text) e)

end PlotLang.Expression
