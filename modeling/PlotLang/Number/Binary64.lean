/-! # Double-precision numbers

A finite number is a whole count of the least positive one, 2^-1074, with a sign of its own, so
that comparing and adding are exact operations on counts followed by one rounding. A count fits if
it has at most 53 significant bits and lies below 2^1024. Nothing here depends on the machine's
arithmetic.
-/

namespace PlotLang

/-- A quotient rounded to the nearest natural, a tie going to the even neighbour. -/
def roundDiv (num den : Nat) : Nat :=
  let whole := num / den
  let twice := 2 * (num % den)
  if twice < den then whole
  else if den < twice then whole + 1
  else whole + whole % 2

theorem roundDiv_le (num den : Nat) : roundDiv num den ≤ num / den + 1 := by
  unfold roundDiv
  simp only
  split
  · omega
  · split <;> omega

namespace Binary64

/-- The number of units in one. -/
def unitsInOne : Nat := Nat.pow 2 1074

/-- The least count that needs all 53 bits. -/
def leastFull : Nat := Nat.pow 2 52

/-- The gap between neighbouring doubles at a given count. -/
def spacing (units : Nat) : Nat :=
  Nat.pow 2 (units.log2 + 1 - 53)

/-- At most 53 significant bits, and fewer than 2099 bits in all. -/
def Fits (units : Nat) : Prop :=
  spacing units ∣ units ∧ units.log2 < 2098

instance (units : Nat) : Decidable (Fits units) :=
  inferInstanceAs (Decidable (_ ∧ _))

theorem fits_zero : Fits 0 :=
  ⟨⟨0, rfl⟩, by decide⟩

end Binary64

inductive Binary64 where
  | nan
  | infinite (negative : Bool)
  | finite (negative : Bool) (units : Nat) (fits : Binary64.Fits units)
  deriving DecidableEq

namespace Binary64

def zero : Binary64 := .finite false 0 fits_zero

instance : Inhabited Binary64 := ⟨zero⟩

/-- A quotient of counts rounded to a count of at most 53 significant bits, ties to even. -/
def roundUnits (num den : Nat) : Nat :=
  let gap := spacing (num / den)
  roundDiv num (den * gap) * gap

theorem spacing_dvd_roundUnits (num den : Nat) :
    spacing (roundUnits num den) ∣ roundUnits num den := by
  unfold roundUnits
  simp only
  generalize hw : num / den = whole
  have hround : roundDiv num (den * spacing whole) ≤ 2 ^ 53 := by
    have hdiv : num / (den * spacing whole) < 2 ^ 53 := by
      rw [← Nat.div_div_eq_div_mul, hw]
      simp only [spacing, Nat.pow_eq]
      rw [Nat.div_lt_iff_lt_mul (Nat.two_pow_pos _), ← Nat.pow_add]
      by_cases hzero : whole = 0
      · subst hzero
        exact Nat.two_pow_pos _
      · exact (Nat.log2_lt hzero).mp (by omega)
    have := roundDiv_le num (den * spacing whole)
    omega
  generalize roundDiv num (den * spacing whole) = m at hround
  simp only [spacing, Nat.pow_eq]
  generalize whole.log2 + 1 - 53 = k
  by_cases hm : m = 0
  · subst hm
    simp
  · have hpos : m * 2 ^ k ≠ 0 := by
      have := Nat.two_pow_pos k
      exact Nat.mul_ne_zero hm (by omega)
    rcases Nat.lt_or_eq_of_le hround with hlt | heq
    · have hlog : (m * 2 ^ k).log2 < 53 + k := by
        rw [Nat.log2_lt hpos, Nat.pow_add]
        exact Nat.mul_lt_mul_of_pos_right hlt (Nat.two_pow_pos k)
      exact Nat.dvd_trans (Nat.pow_dvd_pow 2 (by omega)) (Nat.dvd_mul_left _ _)
    · subst heq
      rw [← Nat.pow_add, Nat.log2_two_pow]
      exact Nat.pow_dvd_pow 2 (by omega)

/-- The double nearest a quotient of naturals, ties to even; from the midpoint above the greatest
finite double on it is infinite. -/
def ofRatio (negative : Bool) (num den : Nat) : Binary64 :=
  let units := roundUnits (num * unitsInOne) den
  if h : units.log2 < 2098 then
    .finite negative units ⟨spacing_dvd_roundUnits _ _, h⟩
  else .infinite negative

def ofUnits (negative : Bool) (count : Nat) : Binary64 :=
  let units := roundUnits count 1
  if h : units.log2 < 2098 then
    .finite negative units ⟨spacing_dvd_roundUnits _ _, h⟩
  else .infinite negative

def ofNat (n : Nat) : Binary64 := ofRatio false n 1

def ofInt (n : Int) : Binary64 := ofRatio (n < 0) n.natAbs 1

def isFinite : Binary64 → Bool
  | .finite .. => true
  | _ => false

def isZero : Binary64 → Bool
  | .finite _ units _ => units = 0
  | _ => false

/-- The exact value of a finite number, counted in units of 2^-1074. -/
def signedUnits : Binary64 → Int
  | .finite true units _ => -units
  | .finite false units _ => units
  | _ => 0

def neg : Binary64 → Binary64
  | .nan => .nan
  | .infinite negative => .infinite !negative
  | .finite negative units fits => .finite (!negative) units fits

/-- A sum that is exactly zero is positive unless both terms are negative. -/
def add : Binary64 → Binary64 → Binary64
  | .nan, _ | _, .nan => .nan
  | .infinite a, .infinite b => if a = b then .infinite a else .nan
  | .infinite a, _ => .infinite a
  | _, .infinite b => .infinite b
  | x@(.finite a ..), y@(.finite b ..) =>
    let sum := x.signedUnits + y.signedUnits
    if sum = 0 then .finite (a && b) 0 fits_zero else ofUnits (sum < 0) sum.natAbs

def sub (x y : Binary64) : Binary64 := x.add y.neg

instance : Add Binary64 := ⟨add⟩
instance : Sub Binary64 := ⟨sub⟩
instance : Neg Binary64 := ⟨neg⟩
instance (n : Nat) : OfNat Binary64 n := ⟨ofNat n⟩

/-- Comparison by value; nothing compares with `nan`, and the two zeros are equal. -/
def le : Binary64 → Binary64 → Bool
  | .nan, _ | _, .nan => false
  | .infinite true, _ | _, .infinite false => true
  | .infinite false, _ | _, .infinite true => false
  | x, y => x.signedUnits ≤ y.signedUnits

def lt (x y : Binary64) : Bool := x.le y && !y.le x

/-- The least integer that is not smaller. -/
def ceil? : Binary64 → Option Int
  | x@(.finite ..) => some (-((-x.signedUnits) / unitsInOne))
  | _ => none

/-- The interchange encoding: sign, eleven bits of exponent, fifty-two of fraction. -/
def toBits : Binary64 → UInt64
  | .nan => 0x7ff8000000000000
  | .infinite negative => 0x7ff0000000000000 ||| signBit negative
  | .finite negative units _ =>
    let scale := units.log2 + 1 - 53
    let magnitude :=
      if units < leastFull then units
      else (scale + 1) * leastFull + (units / Nat.pow 2 scale - leastFull)
    UInt64.ofNat magnitude ||| signBit negative
where
  signBit (negative : Bool) : UInt64 := if negative then 0x8000000000000000 else 0

def ofBits (bits : UInt64) : Binary64 :=
  let word := bits.toNat
  let negative := word / leastFull / 2048 = 1
  let field := word / leastFull % 2048
  let fraction := word % leastFull
  if field = 2047 then
    if fraction = 0 then .infinite negative else .nan
  else if field = 0 then ofUnits negative fraction
  else ofUnits negative ((leastFull + fraction) * Nat.pow 2 (field - 1))

def toFloat (x : Binary64) : Float := Float.ofBits x.toBits

def ofFloat (x : Float) : Binary64 := ofBits x.toBits

end Binary64

end PlotLang
