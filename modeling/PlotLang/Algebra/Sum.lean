import PlotLang.Algebra.Sign

/-! # Sums

A sum gathers its numbers into one and adds the coefficients of like terms, two terms being like if
they differ in their coefficients only.
-/

namespace PlotLang.Algebra

namespace Sum

/-- Adds to the constant part of a sum: a number, an infinity, or a value that swallows all. -/
def addConstant (total o : Term) : Term :=
  match total, o with
  | .undefined, _ | _, .undefined => .undefined
  | .number a, .number b => .number (a + b)
  | .oscillation, _ | _, .oscillation => .oscillation
  | .pole, .number _ | .number _, .pole => .pole
  | .infinity a, .number _ | .number _, .infinity a => .infinity a
  | .infinity a, .infinity b => if a = b then .infinity a else .undefined
  | _, _ => .undefined

def isConstantPart : Term → Bool
  | .number _ | .infinity _ | .pole | .undefined | .oscillation => true
  | _ => false

/-- Adds a coefficient to a term's entry; a new term comes last. -/
def addLike (entries : List (Term × Number)) (t : Term) (c : Number) : List (Term × Number) :=
  match entries with
  | [] => [(t, c)]
  | (s, d) :: rest => if s == t then (s, d + c) :: rest else (s, d) :: addLike rest t c

structure Gathered where
  constant : Term := .zero
  entries : List (Term × Number) := []

def gather (g : Gathered) (t : Term) : Gathered :=
  if isConstantPart t then { g with constant := addConstant g.constant t }
  else
    let (c, s) := t.splitCoefficient
    { g with entries := addLike g.entries s c }

/-- The terms that an infinite constant part leaves standing: those it cannot be told to exceed. -/
def surviving (constant : Term) (ts : List Term) : List Term :=
  match constant with
  | .infinity false => ts.filter fun t => !(t.isNonnegative || t.constantIsReal? = some true)
  | .infinity true =>
    ts.filter fun t =>
      !((t.sign?.map Sign.isNonpositive).getD false || t.constantIsReal? = some true)
  | .pole => ts.filter fun t => !t.constantIsReal?.isSome
  | _ => ts

end Sum

def Term.sumOf (ts : List Term) : Term :=
  let g := (ts.flatMap Term.terms).foldl Sum.gather {}
  match g.constant with
  | .undefined => .undefined
  | constant =>
    let like := g.entries.filterMap fun (t, c) =>
      if c.isZero then none else some (t.withCoefficient c)
    let kept := Term.sorted (Sum.surviving constant like)
    if constant == .zero then Term.ofTerms kept else Term.ofTerms (constant :: kept)

def Term.add (a b : Term) : Term := Term.sumOf [a, b]

end PlotLang.Algebra
