import PlotLang.Expression.Vocabulary

/-! # Pieces of a function's text

A text that has passed the scan of its vocabulary is cut again, now into hexadecimal numbers,
numbers with a power of ten, names that go on with digits, and single characters. Nothing is lost:
the pieces joined are the text.
-/

namespace PlotLang.Expression

open Text

/-- A power of ten, which a number ends in. -/
structure Power where
  sign : Option Char
  digits : List Char
  deriving DecidableEq, Repr

namespace Power

def text (p : Power) : List Char := 'E' :: p.sign.toList ++ p.digits

/-- The power at the head of a text, if there is one, and what follows it. -/
def read (cs : List Char) : Option Power × List Char :=
  match cs with
  | 'E' :: rest =>
    let (sign, ds) := match rest with
      | '-' :: ds => (some '-', ds)
      | '+' :: ds => (some '+', ds)
      | ds => (none, ds)
    if (ds.takeWhile isDigit).isEmpty then (none, cs)
    else (some ⟨sign, ds.takeWhile isDigit⟩, ds.dropWhile isDigit)
  | _ => (none, cs)

end Power

inductive Piece where
  | hexadecimal (digits : List Char)
  | decimal (whole : List Char) (fraction : Option (List Char)) (power : Option Power)
  | name (text : List Char)
  /-- A run that begins with a digit of another script. -/
  | stray (text : List Char)
  | symbol (c : Char)
  deriving DecidableEq, Repr

namespace Piece

def fractionText : Option (List Char) → List Char
  | some ds => '.' :: ds
  | none => []

def text : Piece → List Char
  | .hexadecimal digits => '0' :: 'x' :: digits
  | .decimal whole fraction power => whole ++ fractionText fraction ++ power.elim [] Power.text
  | .name text | .stray text => text
  | .symbol c => [c]

def isNamePart (c : Char) : Bool := Vocabulary.isAsciiLetter c || isDecimalDigit c

def readFraction (cs : List Char) : Option (List Char) × List Char :=
  match cs with
  | '.' :: rest => (some (rest.takeWhile isDigit), rest.dropWhile isDigit)
  | _ => (none, cs)

def readDecimal (cs : List Char) : Piece × List Char :=
  let (fraction, rest) := readFraction (cs.dropWhile isDigit)
  let (power, rest) := Power.read rest
  (.decimal (cs.takeWhile isDigit) fraction power, rest)

def readNumber (cs : List Char) : Piece × List Char :=
  match cs with
  | '0' :: 'x' :: ds =>
    if (ds.takeWhile isHexDigit).isEmpty then readDecimal cs
    else (.hexadecimal (ds.takeWhile isHexDigit), ds.dropWhile isHexDigit)
  | _ => readDecimal cs

/-- A number begins with a digit, or with a point before a digit. -/
def startsNumber (c : Char) (rest : List Char) : Bool :=
  isDigit c || (c = '.' && rest.head?.any isDigit)

/-- The piece at the head of a text, and what follows it. -/
def next (c : Char) (rest : List Char) : Piece × List Char :=
  if startsNumber c rest then readNumber (c :: rest)
  else if Vocabulary.isAsciiLetter c then
    (.name ((c :: rest).takeWhile isNamePart), (c :: rest).dropWhile isNamePart)
  else if isDecimalDigit c then
    (.stray ((c :: rest).takeWhile isNamePart), (c :: rest).dropWhile isNamePart)
  else (.symbol c, rest)

/-- Every piece takes at least one character, so as many pieces as characters are enough. -/
def split : Nat → List Char → List Piece
  | 0, _ => []
  | _ + 1, [] => []
  | fuel + 1, c :: rest =>
    let (piece, after) := next c rest
    piece :: split fuel after

/-- The pieces of a text without the blanks at its ends. -/
def ofText (text : String) : List Piece :=
  let body := trim text.toList
  split body.length body

def isSpace (p : Piece) : Bool := p = .symbol ' ' || p = .symbol '\t' || p = .symbol '\x0c'

end Piece

end PlotLang.Expression
