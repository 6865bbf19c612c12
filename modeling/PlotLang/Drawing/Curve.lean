import PlotLang.Expression

/-! # Curves

A curve joins the finite values of a function at the whole positions of an axis. A value that is
not finite interrupts it: the next finite one begins a new stroke.
-/

namespace PlotLang.Curve

structure Vertex where
  begins : Bool
  x : Nat
  y : Binary64
  deriving DecidableEq

/-- The vertices of a list of values, the first of which belongs to `x`; `joined` says that the
value before it was finite. -/
def vertices (joined : Bool) (x : Nat) : List Binary64 → List Vertex
  | [] => []
  | y :: ys =>
    if y.isFinite then ⟨!joined, x, y⟩ :: vertices true (x + 1) ys
    else vertices false (x + 1) ys

def ofValues (values : List Binary64) : List Vertex := vertices false 0 values

/-- A command to move to a vertex or to draw a line to it. -/
def Vertex.command (height : Binary64) (places : Nat) (v : Vertex) : List Char :=
  (if v.begins then 'M' else 'L') :: ' ' :: Decimal.fixed (.ofNat v.x) places ++
    ' ' :: Decimal.fixed (height - v.y) places

def spaced : List (List Char) → List Char
  | [] => []
  | [cs] => cs
  | cs :: rest => cs ++ ' ' :: spaced rest

def path (height : Binary64) (places : Nat) (vs : List Vertex) : List Char :=
  spaced (vs.map (Vertex.command height places))

inductive Fault where
  | function (failure : Expression.Failure)
  | infiniteWidth
  | undefinedWidth

def infiniteWidthText : String := "cannot convert float infinity to integer"

def undefinedWidthText : String := "cannot convert float NaN to integer"

def positions (width : Binary64) : Except Fault Nat :=
  match width.ceil? with
  | some n => .ok n.toNat
  | none => .error (match width with | .nan => .undefinedWidth | _ => .infiniteWidth)

/-- The values at the positions from `x` on; the first failure ends the evaluation. -/
def valuesFrom (evaluate : Nat → Except Fault Binary64) : Nat → Nat → Except Fault (List Binary64)
  | _, 0 => .ok []
  | x, count + 1 => do
    let y ← evaluate x
    let ys ← valuesFrom evaluate (x + 1) count
    return y :: ys

/-- The values at all positions of an axis of a given width. -/
def sampled (evaluate : Nat → Except Fault Binary64) (width : Binary64) :
    Except Fault (List Binary64) := do
  let count ← positions width
  valuesFrom evaluate 0 count

def values (library : Expression.Library) (function : String) (width : Binary64) :
    Except Fault (List Binary64) := do
  let f ← (Expression.compile library function).mapError Fault.function
  sampled (fun x => (f.evaluate (.whole x)).mapError Fault.function) width

end PlotLang.Curve
