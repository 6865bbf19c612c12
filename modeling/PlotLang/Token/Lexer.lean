import PlotLang.Diagnostic
import PlotLang.Text.Digit
import PlotLang.Text.Letter
import PlotLang.Token

/-! # Scanning a source into tokens

One left-to-right scan, a token or an inert character at a time. A step depends on the past only
through the line number and the names defined so far. A failed step leaves the state it had
reached, so the tokens found before a fault are kept with it.
-/

namespace PlotLang.Lexer

open Text

inductive Fault where
  | invalidNumber (text : String)
  | unknownDeclaration (name : String)
  | missingIdentifier
  | duplicateIdentifier (name : String)
  | unknownShape (name : String)
  | unknownKeyword (word : String)
  deriving DecidableEq, Repr

structure Error where
  fault : Fault
  line : Nat
  deriving DecidableEq, Repr

def Fault.message : Fault → String
  | .invalidNumber text => "Invalid number '" ++ text ++ "'"
  | .unknownDeclaration name => "Unknown declaration '#" ++ name ++ "'"
  | .missingIdentifier => "Missing identifier after '#define'"
  | .duplicateIdentifier name => "Identifier '" ++ name ++ "' already defined"
  | .unknownShape name => "Unknown function '@" ++ name ++ "'"
  | .unknownKeyword word => "Unknown keyword '" ++ word ++ "'"

def Fault.hint? : Fault → Option String
  | .unknownDeclaration _ =>
    some ("Expected one of: " ++ ", ".intercalate Vocabulary.declarations)
  | .unknownShape _ => some ("Expected one of: " ++ ", ".intercalate Vocabulary.shapes)
  | .unknownKeyword _ => some "Expected a keyword or a defined identifier"
  | _ => none

def Error.diagnostic (e : Error) : Diagnostic :=
  ⟨e.fault.message, some e.line, e.fault.hint?⟩

structure State where
  rest : List Char
  line : Nat
  tokens : Array Token
  identifiers : Array String
  deriving DecidableEq, Repr

namespace State

def start (source : String) : State := ⟨source.toList, 1, #[], #[]⟩

def emit (s : State) (kind : Token.Kind) (text : List Char) : State :=
  { s with tokens := s.tokens.push ⟨s.line, kind, String.ofList text⟩ }

def advanceTo (s : State) (rest : List Char) : State := { s with rest := rest }

def fail (s : State) (fault : Fault) : State × Option Error := (s, some ⟨fault, s.line⟩)

end State

def isGap (c : Char) : Bool := c = ' ' || c = '\t' || c = '\r'

def isNumberPart (c : Char) : Bool := isDigit c || c = '.'

/-- The text of a string literal after its opening quote, and what follows its closing quote. A
backslash makes the next character stand for itself; a literal left open ends with the source. -/
def stringBody : List Char → List Char × List Char
  | [] => ([], [])
  | '"' :: rest => ([], rest)
  | ['\\'] => ([], [])
  | '\\' :: c :: rest => let (body, after) := stringBody rest; (c :: body, after)
  | c :: rest => let (body, after) := stringBody rest; (c :: body, after)

/-- What follows a comment after its opening percent sign. -/
def afterComment (cs : List Char) : List Char :=
  (cs.dropWhile (· != '%')).drop 1

def readString (s : State) (afterQuote : List Char) : State :=
  let (body, after) := stringBody afterQuote
  (s.emit .string body).advanceTo after

def readHex (s : State) (digits : List Char) : State :=
  (s.emit .hexColor (digits.takeWhile isHexDigit)).advanceTo (digits.dropWhile isHexDigit)

/-- A lone dot is read and gives no token. -/
def readNumber (s : State) : State × Option Error :=
  let text := s.rest.takeWhile isNumberPart
  let after := s.advanceTo (s.rest.dropWhile isNumberPart)
  match text.count '.' with
  | 0 => (after.emit .integer text, none)
  | 1 => if text = ['.'] then (after, none) else (after.emit .float text, none)
  | _ => after.fail (.invalidNumber (String.ofList text))

/-- The gap after `#define` may hold one line break. -/
def skipGap (s : State) : State :=
  match s.rest.dropWhile isGap with
  | '\n' :: rest => { s with rest := rest.dropWhile isGap, line := s.line + 1 }
  | rest => s.advanceTo rest

def readIdentifier (s : State) : State × Option Error :=
  let name := s.rest.takeWhile isLetter
  let after := s.advanceTo (s.rest.dropWhile isLetter)
  let text := String.ofList name
  if name.isEmpty then after.fail .missingIdentifier
  else if text ∈ s.identifiers then after.fail (.duplicateIdentifier text)
  else ({ after with identifiers := s.identifiers.push text }.emit .newIdentifier name, none)

def readDeclaration (s : State) (afterSign : List Char) : State × Option Error :=
  let name := afterSign.takeWhile isLetter
  let after := s.advanceTo (afterSign.dropWhile isLetter)
  let text := String.ofList name
  if text ∉ Vocabulary.declarations then after.fail (.unknownDeclaration text)
  else if text = "define" then readIdentifier (skipGap (after.emit .define name))
  else (after.emit .declaration name, none)

def readShape (s : State) (afterSign : List Char) : State × Option Error :=
  let name := afterSign.takeWhile isLetter
  let after := s.advanceTo (afterSign.dropWhile isLetter)
  let text := String.ofList name
  if text ∈ Vocabulary.shapes then (after.emit .shapeFunction name, none)
  else after.fail (.unknownShape text)

/-- A defined name is a variable even where it is spelt like a keyword. -/
def readWord (s : State) : State × Option Error :=
  let word := s.rest.takeWhile isLetter
  let after := s.advanceTo (s.rest.dropWhile isLetter)
  let text := String.ofList word
  if text ∈ s.identifiers then (after.emit .variable word, none)
  else if text ∈ Vocabulary.keywords then (after.emit .keyword word, none)
  else after.fail (.unknownKeyword text)

def step (s : State) : State × Option Error :=
  match s.rest with
  | [] => (s, none)
  | '"' :: rest => (readString s rest, none)
  | '\n' :: rest => ({ s with rest := rest, line := s.line + 1 }, none)
  | '0' :: 'x' :: digits => (readHex s digits, none)
  | ',' :: rest => ((s.emit .comma [',']).advanceTo rest, none)
  | '#' :: rest => readDeclaration s rest
  | '@' :: rest => readShape s rest
  | '%' :: rest => (s.advanceTo (afterComment rest), none)
  | c :: rest =>
    if isNumberPart c then readNumber s
    else if isLetter c then readWord s
    else (s.advanceTo rest, none)

/-- At most `steps` steps, fewer when the input ends or a step fails. -/
def run : Nat → State → State × Option Error
  | 0, s => (s, none)
  | steps + 1, s =>
    if s.rest.isEmpty then (s, none)
    else match step s with
      | (next, none) => run steps next
      | failed => failed

/-- Every step takes at least one character, so as many steps as characters are enough. -/
def scan (source : String) : State × Option Error :=
  run source.toList.length (State.start source)

def tokenize (source : String) : Except Error (List Token) :=
  match scan source with
  | (final, none) => .ok final.tokens.toList
  | (_, some error) => .error error

end PlotLang.Lexer
