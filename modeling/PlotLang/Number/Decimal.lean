import PlotLang.Number.Binary64

/-! # Decimal text of numbers

Three ways to write a double in decimal. All work on the exact value, a count of units of 2^-1074.

* Fixed: a given number of places, ties to even, trailing zeros dropped.
* General: a given number of significant digits, trailing zeros dropped, in exponent form where the
  leading digit stands far from the point.
* Shortest: as few digits as read back to the same double.
-/

namespace PlotLang.Decimal

def digits (n : Nat) : List Char := Nat.toDigits 10 n

def dropTrailingZeros (cs : List Char) : List Char :=
  (cs.reverse.dropWhile (· = '0')).reverse

def withSign (negative : Bool) (cs : List Char) : List Char :=
  if negative then '-' :: cs else cs

/-- The digits of a count of 10^-places, with at least one before the point. -/
def placeDigits (count places : Nat) : List Char × List Char :=
  let all := digits count
  let padded := List.replicate (places + 1 - all.length) '0' ++ all
  padded.splitAt (padded.length - places)

/-- The count of 10^-places nearest to a count of units of 2^-1074. -/
def roundPlaces (units places : Nat) : Nat :=
  roundDiv (units * Nat.pow 10 places) Binary64.unitsInOne

/-- A number with at most `places` places after the point, and no point if none are needed. A zero
is written without sign; a negative number that only rounds to zero keeps its sign. -/
def fixed (x : Binary64) (places : Nat) : List Char :=
  match x with
  | .nan => ['n', 'a', 'n']
  | .infinite negative => withSign negative ['i', 'n', 'f']
  | .finite negative units _ =>
    let (whole, fraction) := placeDigits (roundPlaces units places) places
    let kept := dropTrailingZeros fraction
    withSign (negative && units != 0) <|
      if kept.isEmpty then whole else whole ++ '.' :: kept

/-- The least `k` with `num / den < 10 ^ k`, for a positive quotient: the decimal logarithm is
estimated from the numbers of digits and is then at most one too great. -/
def magnitude (num den : Nat) : Int :=
  let estimate : Int := (digits num).length - (digits den).length + 1
  let below := num * Nat.pow 10 (1 - estimate).toNat < den * Nat.pow 10 (estimate - 1).toNat
  if below then estimate - 1 else estimate

/-- Digits and the exponent of the leading one: the value is 0.d₁d₂… · 10^(exponent + 1). -/
structure Scientific where
  digits : List Char
  exponent : Int
  deriving DecidableEq, Repr

/-- A positive quotient rounded to a number of significant digits, ties to even. -/
def significant (num den count : Nat) : Scientific :=
  let top := magnitude num den
  let shift : Int := count - top
  let rounded := roundDiv (num * Nat.pow 10 shift.toNat) (den * Nat.pow 10 (-shift).toNat)
  if rounded < Nat.pow 10 count then ⟨digits rounded, top - 1⟩ else ⟨digits (rounded / 10), top⟩

/-- The decisions of a layout: which exponents of the leading digit are written with a point among
the digits, and whether a whole number shows a place after the point. -/
structure Layout where
  plainFrom : Int
  plainBelow : Int
  wholeShowsPlace : Bool

def exponentText (e : Int) : List Char :=
  let magnitude := digits e.natAbs
  (if e < 0 then '-' else '+') :: List.replicate (2 - magnitude.length) '0' ++ magnitude

def pointAfter (whole fraction : List Char) (showsPlace : Bool) : List Char :=
  if fraction.isEmpty then
    if showsPlace then whole ++ ['.', '0'] else whole
  else whole ++ '.' :: fraction

def Layout.write (layout : Layout) (s : Scientific) : List Char :=
  let kept := match dropTrailingZeros s.digits with
    | [] => ['0']
    | kept => kept
  if layout.plainFrom ≤ s.exponent && s.exponent < layout.plainBelow then
    if s.exponent < 0 then
      '0' :: '.' :: (List.replicate (-s.exponent - 1).toNat '0' ++ kept)
    else
      let whole := s.exponent.toNat + 1
      let padded := kept ++ List.replicate (whole - kept.length) '0'
      pointAfter (padded.take whole) (padded.drop whole) layout.wholeShowsPlace
  else
    pointAfter (kept.take 1) (kept.drop 1) false ++ 'e' :: exponentText s.exponent

def Layout.signed (layout : Layout) (negative : Bool) (s : Scientific) : String :=
  String.ofList (withSign negative (layout.write s))

def general (x : Binary64) (count : Nat) : String :=
  let layout : Layout := ⟨-4, count, false⟩
  match x with
  | .nan => "nan"
  | .infinite negative => if negative then "-inf" else "inf"
  | .finite negative units _ =>
    layout.signed negative <|
      if units = 0 then ⟨['0'], 0⟩ else significant units Binary64.unitsInOne count

/-- The double that decimal digits with a leading exponent stand for. -/
def Scientific.value (negative : Bool) (s : Scientific) : Binary64 :=
  let count := Nat.ofDigitChars 10 s.digits 0
  let scale : Int := s.exponent + 1 - s.digits.length
  Binary64.ofRatio negative (count * Nat.pow 10 scale.toNat) (Nat.pow 10 (-scale).toNat)

/-- Of the two neighbours of a quotient among decimals of `count` digits, the nearer one that reads
back to `x`. -/
def neighbour? (x : Binary64) (num den count : Nat) : Option Scientific :=
  let nearest := significant num den count
  let top := magnitude num den
  let shift : Int := count - top
  let below := num * Nat.pow 10 shift.toNat / (den * Nat.pow 10 (-shift).toNat)
  let candidates := [nearest, ⟨digits below, top - 1⟩, ⟨digits (below + 1), top - 1⟩]
  candidates.find? fun s => s.value false == x

/-- The fewest digits that read back, between one and seventeen. -/
def shortestDigits (num den : Nat) (x : Binary64) : Scientific :=
  ((List.range 17).findSome? fun i => neighbour? x num den (i + 1)).getD
    (significant num den 17)

/-- The layout of a real number that must be told from a whole one. -/
def realLayout : Layout := ⟨-4, 16, true⟩

def shortest (x : Binary64) : String :=
  match x with
  | .nan => "nan"
  | .infinite negative => if negative then "-inf" else "inf"
  | .finite negative units fits =>
    realLayout.signed negative <|
      if units = 0 then ⟨['0'], 0⟩
      else shortestDigits units Binary64.unitsInOne (.finite false units fits)

end PlotLang.Decimal
