import PlotLang.Expression.Piece
import PlotLang.Algebra.Number

/-! # Lexemes of a function

Pieces are read from left to right. Asterisks that only blanks separate make one operator, as do
slashes. A line may break inside parentheses only. A point that belongs to no number is a lexeme of
its own.
-/

namespace PlotLang.Expression

open Text PlotLang.Algebra

inductive Operator where
  | plus | minus | times | divide | floorDivide | power
  deriving DecidableEq, Repr

inductive Lexeme where
  | number (value : Number)
  /-- `called` says that an opening parenthesis comes next. -/
  | name (text : String) (called : Bool)
  | operator (o : Operator)
  | openParenthesis
  | closeParenthesis
  | comma
  | dot
  deriving DecidableEq

namespace Lexeme

/-- Integers of more digits are not read. -/
def greatestDigits : Nat := 4300

/-- Parentheses nested deeper are not read. -/
def greatestDepth : Nat := 200

/-- A decimal number keeps one bit more than its digits need, and at least the 53 of fifteen. -/
def bitsForDigits (digits : Nat) : Nat :=
  ((digits + 1) * 33219280948873626 + 5000000000000000) / 10000000000000000

def naturalValue (ds : List Char) : Nat := Nat.ofDigitChars 10 ds 0

def digitCount (n : Nat) : Nat := if n = 0 then 1 else (Nat.toDigits 10 n).length

/-- A number written with a point or a power of ten. It is known to as many digits as it is written
with; without a point, to as many as the integer has that it equals. -/
def decimal? (whole fraction : List Char) (hasPoint : Bool) (power : Int) : Option Number :=
  let significand := naturalValue (whole ++ fraction)
  let exponent := power - fraction.length
  let value : Rat := if exponent < 0 then mkRat significand (Nat.pow 10 exponent.natAbs)
    else (significand * Nat.pow 10 exponent.natAbs : Nat)
  let written := digitCount significand
  let asInteger := if hasPoint || value.den != 1 then 0 else digitCount value.num.natAbs
  if asInteger > greatestDigits then none
  else
    let bits := bitsForDigits (max 15 (max written asInteger))
    some (.float (BigFloat.ofRat bits value) bits)

/-- An integer has no leading zeros, unless it is zero. -/
def integer? (ds : List Char) : Option Number :=
  if ds.length > greatestDigits then none
  else if ds.head? = some '0' && ds.any (· != '0') then none
  else some (.ofInt (naturalValue ds))

def powerValue (p : Power) : Int :=
  if p.sign = some '-' then -naturalValue p.digits else naturalValue p.digits

def hexValue (c : Char) : Nat :=
  if isDigit c then digitValue c else c.toUpper.toNat - 'A'.toNat + 10

def number? : Piece → Option Number
  | .hexadecimal digits => some (.ofInt (digits.foldl (fun n c => 16 * n + hexValue c) 0 : Nat))
  | .decimal whole none none => integer? whole
  | .decimal whole fraction power =>
    decimal? whole (fraction.getD []) fraction.isSome (power.elim 0 powerValue)
  | _ => none

def starOperator? : Nat → Option Operator
  | 1 => some .times
  | 2 => some .power
  | _ => none

def slashOperator? : Nat → Option Operator
  | 1 => some .divide
  | 2 => some .floorDivide
  | _ => none

/-- How many asterisks a run amounts to, blanks between them left out, and what follows it. -/
def starRun : List Piece → Nat → Nat × List Piece
  | [], n => (n, [])
  | p :: ps, n =>
    if p = .symbol '*' then starRun ps (n + 1)
    else if p = .symbol '^' then starRun ps (n + 2)
    else if p.isSpace then starRun ps n
    else (n, p :: ps)

def slashRun : List Piece → Nat → Nat × List Piece
  | [], n => (n, [])
  | p :: ps, n =>
    if p = .symbol '/' then slashRun ps (n + 1)
    else if p.isSpace then slashRun ps n
    else (n, p :: ps)

/-- Reads pieces as lexemes; `depth` counts the parentheses that are open. -/
def ofPieces : Nat → Nat → List Piece → Option (List Lexeme)
  | _, _, [] => some []
  | 0, _, _ :: _ => none
  | fuel + 1, depth, p :: ps =>
    match p with
    | .hexadecimal _ | .decimal .. => do
      let n ← number? p
      (ofPieces fuel depth ps).map (.number n :: ·)
    | .name text =>
      let called := (ps.dropWhile Piece.isSpace).head? = some (.symbol '(')
      (ofPieces fuel depth ps).map (.name (String.ofList text) called :: ·)
    | .stray _ => none
    | .symbol c =>
      if p.isSpace then ofPieces fuel depth ps
      else if c = '\n' || c = '\r' then if depth = 0 then none else ofPieces fuel depth ps
      else if c = '(' then
        if depth < greatestDepth then (ofPieces fuel (depth + 1) ps).map (.openParenthesis :: ·)
        else none
      else if c = ')' then
        if depth = 0 then none else (ofPieces fuel (depth - 1) ps).map (.closeParenthesis :: ·)
      else if c = ',' then (ofPieces fuel depth ps).map (.comma :: ·)
      else if c = '.' then (ofPieces fuel depth ps).map (.dot :: ·)
      else if c = '+' then (ofPieces fuel depth ps).map (.operator .plus :: ·)
      else if c = '-' then (ofPieces fuel depth ps).map (.operator .minus :: ·)
      else if c = '*' || c = '^' then do
        let (n, after) := starRun (p :: ps) 0
        let o ← starOperator? n
        (ofPieces fuel depth after).map (.operator o :: ·)
      else if c = '/' then do
        let (n, after) := slashRun (p :: ps) 0
        let o ← slashOperator? n
        (ofPieces fuel depth after).map (.operator o :: ·)
      else none

def ofText? (text : String) : Option (List Lexeme) :=
  let pieces := Piece.ofText text
  ofPieces pieces.length 0 pieces

end Lexeme

end PlotLang.Expression
