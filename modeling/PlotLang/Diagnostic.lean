/-! # How a computation ends early

A diagnostic is what a user is told about a fatal fault: a message, the source line it concerns if
there is one, and a hint if there is one. Each kind of fault is a type of its own, and states its
wording by a function into `Diagnostic`.

Code that the program calls, a library or the system, may raise an exception instead of answering.
-/

namespace PlotLang

structure Diagnostic where
  message : String
  line : Option Int
  hint : Option String
  deriving DecidableEq, Repr

namespace Diagnostic

def text (d : Diagnostic) : String :=
  let located := match d.line with
    | some line => d.message ++ " at line " ++ toString line
    | none => d.message
  match d.hint with
  | some hint => if hint.isEmpty then located else located ++ "\n         > " ++ hint
  | none => located

end Diagnostic

/-- The classes of exceptions that a handler asks for. -/
inductive Raised.Kind where
  | ordinary
  | arithmetic
  | grammar
  | key
  | name
  | system
  | type
  | value
  deriving DecidableEq, Repr

/-- An exception: the name of its class, the classes of `Kind` that it belongs to, and its text. -/
structure Raised where
  name : String
  kinds : List Raised.Kind
  text : String
  deriving DecidableEq, Repr

namespace Raised

def isAny (e : Raised) (kinds : List Kind) : Bool := kinds.any e.kinds.contains

/-- A value that an operation cannot be applied to. -/
def ofValue (text : String) : Raised := ⟨"ValueError", [.ordinary, .value], text⟩

def overflow (text : String) : Raised := ⟨"OverflowError", [.ordinary, .arithmetic], text⟩

def undecodable (text : String) : Raised := ⟨"UnicodeDecodeError", [.ordinary, .value], text⟩

/-- What the system refuses. -/
def ofSystem (text : String) : Raised := ⟨"OSError", [.ordinary, .system], text⟩

end Raised

inductive Thrown where
  | diagnosed (d : Diagnostic)
  | raised (e : Raised)
  deriving DecidableEq, Repr

end PlotLang
