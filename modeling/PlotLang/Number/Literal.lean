import PlotLang.Number.Binary64
import PlotLang.Text.Ranges
import PlotLang.Text.Digit

/-! # Reading numbers from text

A number literal is a sign, decimal digits with at most one point and an optional power of ten; the
names of infinity and of the undefined value are literals too. Blanks around a literal are ignored,
but not the separators among the control characters. The digits of every script are accepted, and
single underscores may separate digits.
-/

namespace PlotLang.Literal

open Text

def isPadding (c : Char) : Bool := isBlank c && !(28 ≤ c.toNat && c.toNat ≤ 31)

def core (cs : List Char) : List Char :=
  ((cs.dropWhile isPadding).reverse.dropWhile isPadding).reverse

/-- Digits of any script and ASCII characters as plain ASCII; any other character has no place in
a literal. -/
def plain? (c : Char) : Option Char :=
  match decimalDigitValue? c with
  | some d => some (Char.ofNat ('0'.toNat + d))
  | none => if c.toNat < 128 then some c else none

/-- Removes the underscores of a literal, each of which must stand between two digits. -/
def dropUnderscores? : Char → List Char → Option (List Char)
  | _, [] => some []
  | before, '_' :: c :: rest =>
    if isDigit before && isDigit c then (dropUnderscores? c rest).map (c :: ·) else none
  | before, c :: rest =>
    if c = '_' && before != c then none else (dropUnderscores? c rest).map (c :: ·)

def sign : List Char → Bool × List Char
  | '-' :: rest => (true, rest)
  | '+' :: rest => (false, rest)
  | cs => (false, cs)

def value (ds : List Char) : Nat := Nat.ofDigitChars 10 ds 0

/-- The power of ten after a literal's digits: none, or a marker, a sign and digits. -/
def power? : List Char → Option Int
  | [] => some 0
  | marker :: rest =>
    if marker = 'e' || marker = 'E' then
      let (negative, ds) := sign rest
      if ds.isEmpty || !ds.all isDigit then none
      else some (if negative then -(value ds : Int) else value ds)
    else none

structure Digits where
  whole : List Char
  fraction : List Char
  deriving DecidableEq, Repr

namespace Digits

def all (d : Digits) : List Char := d.whole ++ d.fraction

/-- The decimal number with its point moved by a power of ten. Exponents far outside the range of
doubles are answered without computing the power. -/
def scaled (negative : Bool) (d : Digits) (power : Int) : Binary64 :=
  let significand := d.all.dropWhile (· = '0')
  let exponent : Int := power - d.fraction.length
  let top : Int := exponent + significand.length
  if significand.isEmpty then .finite negative 0 Binary64.fits_zero
  else if top > 400 then .infinite negative
  else if top < -400 then .finite negative 0 Binary64.fits_zero
  else
    let count := value significand
    Binary64.ofRatio negative (count * Nat.pow 10 exponent.toNat) (Nat.pow 10 (-exponent).toNat)

end Digits

/-- The digits at the head of a text, with the point among them, and what follows. -/
def readDigits (cs : List Char) : Digits × List Char :=
  let whole := cs.takeWhile isDigit
  match cs.dropWhile isDigit with
  | '.' :: rest => (⟨whole, rest.takeWhile isDigit⟩, rest.dropWhile isDigit)
  | rest => (⟨whole, []⟩, rest)

def lower (cs : List Char) : String := (String.ofList cs).toLower

def real? (text : String) : Option Binary64 := do
  let cs ← (core text.toList).mapM plain?
  let (negative, body) := sign cs
  if ["inf", "infinity"].contains (lower body) then some (.infinite negative)
  else if lower body == "nan" then some .nan
  else
    let bare ← dropUnderscores? ' ' body
    let (ds, rest) := readDigits bare
    if ds.all.isEmpty then none
    else
      let power ← power? rest
      some (ds.scaled negative power)

def whole? (text : String) : Option Int := do
  let cs ← (core text.toList).mapM plain?
  let (negative, body) := sign cs
  let bare ← dropUnderscores? ' ' body
  if bare.isEmpty || !bare.all isDigit then none
  else some (if negative then -(value bare : Int) else value bare)

end PlotLang.Literal
