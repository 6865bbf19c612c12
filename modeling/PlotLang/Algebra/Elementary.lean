import PlotLang.Algebra.BigFloat

/-! # Elementary functions to any precision

Each function answers its value at a binary floating-point number to about the given number of
bits. Series are summed in fixed point with guard bits after the argument has been reduced; the
number of terms is bounded by the number of bits. No error bound is established.
-/

namespace PlotLang.BigFloat

/-- Σ ± 1 / ((2k + 1) n^(2k + 1)) in units of 2^-places, with alternating signs for the arc tangent
of 1/n and equal signs for its hyperbolic counterpart. -/
def arcSeries (alternating : Bool) (n : Nat) (places : Nat) : Int :=
  loop places 0 ((Nat.pow 2 places : Nat) / n) 0
where
  loop : Nat → Nat → Nat → Int → Int
    | 0, _, _, acc => acc
    | fuel + 1, k, power, acc =>
      if power = 0 then acc
      else
        let term : Int := (power / (2 * k + 1) : Nat)
        loop fuel (k + 1) (power / (n * n))
          (if alternating && k % 2 = 1 then acc - term else acc + term)

def piFixed (places : Nat) : Int :=
  let guarded := places + 16
  (16 * arcSeries true 5 guarded - 4 * arcSeries true 239 guarded) >>> (16 : Nat)

def log2Fixed (places : Nat) : Int :=
  let guarded := places + 16
  (18 * arcSeries false 26 guarded - 2 * arcSeries false 4801 guarded
    + 8 * arcSeries false 8749 guarded) >>> (16 : Nat)

def pi (bits : Nat) : BigFloat := ofFixed bits (bits + 16) (piFixed (bits + 16))

def expSeries (places : Nat) (x : Int) : Int :=
  loop places 1 (Nat.pow 2 places : Nat) 0
where
  loop : Nat → Nat → Int → Int → Int
    | 0, _, _, acc => acc
    | fuel + 1, k, term, acc =>
      if term = 0 then acc
      else loop fuel (k + 1) ((term * x / (k : Int)) >>> places) (acc + term)

/-- The exponential of a fixed-point number of magnitude below one: eight halvings, the series,
eight squarings. -/
def expFixed (places : Nat) (x : Int) : Int :=
  let guarded := places + 24
  let series := expSeries guarded (x * (Nat.pow 2 16 : Nat))
  let squared := (List.range 8).foldl (fun (v : Int) _ => (v * v) >>> guarded) series
  squared >>> (24 : Nat)

/-- Beyond this magnitude of an argument a power of two in the answer is no longer computed. -/
def hugeTop : Int := 20000

def exp (bits : Nat) (x : BigFloat) : BigFloat :=
  if x.isZero then ofInt 1
  else if x.top < -(bits : Int) - 8 then add bits (ofInt 1) x
  else
    let places := bits + 32 + (min x.top hugeTop).toNat
    let fixed := x.toFixed places
    let log2 := log2Fixed places
    let n := fixed / log2
    let rest := fixed - n * log2
    (ofFixed bits places (expFixed places rest)).scale n

/-- The logarithm of a positive number near one, by the series of the hyperbolic arc tangent. -/
def logFixed (places : Nat) (x : Int) : Int :=
  let one : Int := (Nat.pow 2 places : Nat)
  let y := (x - one) * one / (x + one)
  let square := (y * y) >>> places
  2 * loop square places 0 y 0
where
  loop (square : Int) : Nat → Nat → Int → Int → Int
    | 0, _, _, acc => acc
    | fuel + 1, k, power, acc =>
      if power = 0 || power = -1 then acc
      else
        loop square fuel (k + 1) ((power * square) >>> places)
          (acc + power / ((2 * k + 1 : Nat) : Int))

/-- The logarithm of the magnitude. -/
def log (bits : Nat) (x : BigFloat) : BigFloat :=
  let m := x.abs
  if m.isZero then zero
  else
    let scaled := m.scale (-m.top)
    let (near, e) := if scaled.lt ⟨3, -2⟩ then (scaled.scale 1, m.top - 1) else (scaled, m.top)
    let apart := sub (bits + 8) near (ofInt 1)
    if e = 0 && apart.isZero then zero
    else
      let lost := if e = 0 then (-apart.top).toNat else 0
      let places := bits + 40 + lost
      ofFixed bits places (logFixed places (near.toFixed places) + e * log2Fixed places)

def cosSinFixed (places : Nat) (x : Int) : Int × Int :=
  let square := (x * x) >>> places
  (loop square places 1 (Nat.pow 2 places : Nat) 0, loop square places 2 x 0)
where
  loop (square : Int) : Nat → Nat → Int → Int → Int
    | 0, _, _, acc => acc
    | fuel + 1, k, term, acc =>
      if term = 0 || term = -1 then acc
      else
        loop square fuel (k + 2) (-(((term * square) >>> places) / ((k * (k + 1) : Nat) : Int)))
          (acc + term)

/-- Cosine and sine after reduction by quarter turns. Guard bits cover the loss when the argument
lies near a multiple of a quarter turn. -/
def cosSin (bits : Nat) (x : BigFloat) : BigFloat × BigFloat :=
  if x.top < -(bits : Int) - 8 then (ofInt 1, x.round bits)
  else
    let places := bits + 128 + (min x.top hugeTop).toNat + (-x.top).toNat
    let fixed := x.toFixed places
    let quarter := piFixed places / 2
    let n := (fixed + quarter / 2) / quarter
    let (c, s) := cosSinFixed places (fixed - n * quarter)
    let answer (v : Int) : BigFloat := ofFixed bits places v
    match (n % 4).toNat with
    | 0 => (answer c, answer s)
    | 1 => (answer (-s), answer c)
    | 2 => (answer (-c), answer (-s))
    | _ => (answer s, answer (-c))

def atanFixed (places : Nat) (x : Int) : Int :=
  loop ((x * x) >>> places) places 0 x 0
where
  loop (square : Int) : Nat → Nat → Int → Int → Int
    | 0, _, _, acc => acc
    | fuel + 1, k, power, acc =>
      if power = 0 || power = -1 then acc
      else
        loop square fuel (k + 1) (-((power * square) >>> places))
          (acc + power / ((2 * k + 1 : Nat) : Int))

/-- Half of the arc tangent has the tangent x / (1 + √(1 + x²)). -/
def halveTangent (bits : Nat) (x : BigFloat) : BigFloat :=
  div bits x (add bits (ofInt 1) (sqrt bits (add bits (ofInt 1) (mul bits x x))))

def atan (bits : Nat) (x : BigFloat) : BigFloat :=
  if x.top < -(bits : Int) - 8 then x.round bits
  else
    let guarded := bits + 32
    let steep := (ofInt 1).lt x.abs
    let small := if steep then div guarded (ofInt 1) x else x
    let halved := (List.range 4).foldl (fun v _ => halveTangent guarded v) small
    let places := guarded + (-halved.top).toNat
    let angle := (ofFixed guarded places (atanFixed places (halved.toFixed places))).scale 4
    if steep then
      let quarter := (pi guarded).scale (-1)
      sub bits (if x.isNegative then quarter.neg else quarter) angle
    else angle.round bits

/-- The angle of the point (x, y), between minus and plus half a turn. -/
def angle (bits : Nat) (y x : BigFloat) : BigFloat :=
  if y.isZero then
    if x.isNegative then pi bits else zero
  else if x.isZero then
    let quarter := (pi bits).scale (-1)
    if y.isNegative then quarter.neg else quarter
  else
    let base := atan (bits + 16) (div (bits + 16) y x)
    if !x.isNegative then base.round bits
    else if y.isNegative then sub bits base (pi (bits + 16))
    else add bits base (pi (bits + 16))

/-- For a magnitude of at most one. -/
def asin (bits : Nat) (x : BigFloat) : BigFloat :=
  let guarded := 2 * bits + 16
  let cosine := sqrt guarded (mul guarded (sub guarded (ofInt 1) x) (add guarded (ofInt 1) x))
  angle bits x cosine

/-- For a magnitude of at most one. -/
def acos (bits : Nat) (x : BigFloat) : BigFloat :=
  let guarded := 2 * bits + 16
  let sine := sqrt guarded (mul guarded (sub guarded (ofInt 1) x) (add guarded (ofInt 1) x))
  angle bits sine x

def coshSinh (bits : Nat) (x : BigFloat) : BigFloat × BigFloat :=
  if x.top < -(bits : Int) - 8 then (ofInt 1, x.round bits)
  else
    let guarded := bits + 16 + 2 * (-x.top).toNat
    let grown := exp guarded x
    let shrunk := div guarded (ofInt 1) grown
    ((add bits grown shrunk).scale (-1), (sub bits grown shrunk).scale (-1))

def powReal (bits : Nat) (x y : BigFloat) : BigFloat :=
  let guarded := bits + 32 + y.top.toNat + 64
  exp bits (mul guarded y (log guarded x))

end PlotLang.BigFloat
