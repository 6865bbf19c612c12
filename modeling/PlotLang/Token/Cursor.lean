import PlotLang.Diagnostic
import PlotLang.Text.Quoted
import PlotLang.Token

/-! # Reading tokens one after another

A cursor holds the tokens still to be read and the number of those read. A reader answers a value
or a fault together with the cursor it stopped at, so what was read before a fault stays read.
-/

namespace PlotLang

structure Cursor where
  rest : List Token
  position : Nat
  deriving DecidableEq, Repr

namespace Cursor

def start (tokens : List Token) : Cursor := ⟨tokens, 0⟩

def atEnd (c : Cursor) : Bool := c.rest.isEmpty

def peek? (c : Cursor) : Option Token := c.rest.head?

def next? (c : Cursor) : Option (Token × Cursor) :=
  match c.rest with
  | [] => none
  | t :: rest => some (t, ⟨rest, c.position + 1⟩)

end Cursor

/-- What a reader wanted where it met something else. -/
inductive Expectation where
  | kinds (allowed : List Token.Kind)
  | number
  | string
  | color
  | field (keywords : List String)
  | block
  deriving DecidableEq, Repr

def Expectation.hint : Expectation → String
  | .kinds allowed => "Expected one of the following: " ++ Token.Kind.describe allowed
  | .number => "Expected an integer or a float"
  | .string => "Expected a string"
  | .color => "Expected a hexadecimal value"
  | .field keywords => "Expected a keyword (one of: " ++ ", ".intercalate keywords ++ ")"
  | .block => "Only declarations, definitions and functions are allowed at the top level"

inductive ReadFault where
  | missingValue (keyword : Token)
  | missingValues (keyword : Token) (count : Nat)
  | unexpected (token : Token) (expected : Expectation)
  deriving DecidableEq, Repr

def ReadFault.diagnostic : ReadFault → Diagnostic
  | .missingValue keyword =>
    ⟨"Missing value after '" ++ keyword.text ++ "' keyword", some keyword.line, none⟩
  | .missingValues keyword count =>
    ⟨"Missing values after '" ++ keyword.text ++ "'", some keyword.line,
      some ("Expected " ++ toString count ++ " values")⟩
  | .unexpected token expected =>
    ⟨"Unexpected token '" ++ token.text ++ "'", some token.line, some expected.hint⟩

namespace Cursor

/-- One token of an allowed kind. -/
def readOne (keyword : Token) (allowed : List Token.Kind) (expected : Expectation) (c : Cursor) :
    Except ReadFault Token × Cursor :=
  match c.rest with
  | [] => (.error (.missingValue keyword), c)
  | t :: rest =>
    if t.kind ∈ allowed then (.ok t, ⟨rest, c.position + 1⟩)
    else (.error (.unexpected t expected), c)

def readValues (keyword : Token) (allowed : List Token.Kind) (count : Nat) :
    Nat → List Token → Nat → Except ReadFault (List Token) × Cursor
  | 0, rest, position => (.ok [], ⟨rest, position⟩)
  | _ + 1, [], position => (.error (.missingValues keyword count), ⟨[], position⟩)
  | needed + 1, t :: rest, position =>
    if t.kind = .comma then readValues keyword allowed count (needed + 1) rest (position + 1)
    else if t.kind ∈ allowed then
      let (values, stopped) := readValues keyword allowed count needed rest (position + 1)
      (values.map (t :: ·), stopped)
    else (.error (.unexpected t (.kinds allowed)), ⟨t :: rest, position⟩)

/-- Exactly `count` tokens of the allowed kinds. Commas before a value are read and not counted;
none is read after the last value. -/
def readTuple (keyword : Token) (allowed : List Token.Kind) (count : Nat) (c : Cursor) :
    Except ReadFault (List Token) × Cursor :=
  readValues keyword allowed count count c.rest c.position

end Cursor

end PlotLang
