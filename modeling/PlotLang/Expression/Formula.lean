import PlotLang.Expression.Lexeme

/-! # Formulas

The grammar of functions: sums of products of signed powers, a power taking the signed power on its
right as exponent. Parentheses group, hold the arguments of a call, or hold several values; among
values and arguments an asterisk spreads the values of one. A point asks for an attribute by name.
-/

namespace PlotLang.Expression

open PlotLang.Algebra (Number)

inductive Formula where
  | number (value : Number)
  | name (text : String) (called : Bool)
  | tuple (items : List Formula)
  | spread (items : Formula)
  | sign (negative : Bool) (operand : Formula)
  | binary (o : Operator) (left right : Formula)
  | attribute (owner : Formula) (name : String)
  | call (function : Formula) (arguments : List Formula)

namespace Formula

mutual

def sum : Nat → List Lexeme → Option (Formula × List Lexeme)
  | 0, _ => none
  | fuel + 1, ls => do
    let (left, rest) ← product fuel ls
    sumRest fuel left rest

def sumRest : Nat → Formula → List Lexeme → Option (Formula × List Lexeme)
  | 0, _, _ => none
  | fuel + 1, left, .operator .plus :: ls => do
    let (right, rest) ← product fuel ls
    sumRest fuel (.binary .plus left right) rest
  | fuel + 1, left, .operator .minus :: ls => do
    let (right, rest) ← product fuel ls
    sumRest fuel (.binary .minus left right) rest
  | _ + 1, left, ls => some (left, ls)

def product : Nat → List Lexeme → Option (Formula × List Lexeme)
  | 0, _ => none
  | fuel + 1, ls => do
    let (left, rest) ← signed fuel ls
    productRest fuel left rest

def productRest : Nat → Formula → List Lexeme → Option (Formula × List Lexeme)
  | 0, _, _ => none
  | fuel + 1, left, .operator o :: ls =>
    match o with
    | .times | .divide | .floorDivide => do
      let (right, rest) ← signed fuel ls
      productRest fuel (.binary o left right) rest
    | _ => some (left, .operator o :: ls)
  | _ + 1, left, ls => some (left, ls)

def signed : Nat → List Lexeme → Option (Formula × List Lexeme)
  | 0, _ => none
  | fuel + 1, .operator .plus :: ls => do
    let (operand, rest) ← signed fuel ls
    some (.sign false operand, rest)
  | fuel + 1, .operator .minus :: ls => do
    let (operand, rest) ← signed fuel ls
    some (.sign true operand, rest)
  | fuel + 1, ls => do
    let (base, rest) ← atom fuel ls
    let (base, rest) ← calls fuel base rest
    match rest with
    | .operator .power :: rest => do
      let (exponent, rest) ← signed fuel rest
      some (.binary .power base exponent, rest)
    | rest => some (base, rest)

def atom : Nat → List Lexeme → Option (Formula × List Lexeme)
  | 0, _ => none
  | _ + 1, .number n :: ls => some (.number n, ls)
  | _ + 1, .name text called :: ls => some (.name text called, ls)
  | fuel + 1, .openParenthesis :: ls => do
    let ((items, closedByComma), rest) ← items fuel ls
    match items, closedByComma with
    | [.spread _], false => none
    | [item], false => some (item, rest)
    | items, _ => some (.tuple items, rest)
  | _ + 1, _ => none

/-- What follows an atom: arguments and attributes. -/
def calls : Nat → Formula → List Lexeme → Option (Formula × List Lexeme)
  | 0, _, _ => none
  | fuel + 1, function, .openParenthesis :: ls => do
    let ((arguments, _), rest) ← items fuel ls
    calls fuel (.call function arguments) rest
  | fuel + 1, owner, .dot :: .name text _ :: ls => calls fuel (.attribute owner text) ls
  | _ + 1, function, ls => some (function, ls)

/-- The values up to a closing parenthesis, and whether a comma comes before it. -/
def items : Nat → List Lexeme → Option ((List Formula × Bool) × List Lexeme)
  | 0, _ => none
  | _ + 1, .closeParenthesis :: ls => some (([], true), ls)
  | fuel + 1, ls => do
    let (first, rest) ← item fuel ls
    match rest with
    | .closeParenthesis :: rest => some (([first], false), rest)
    | .comma :: rest => do
      let ((others, closedByComma), rest) ← items fuel rest
      some ((first :: others, closedByComma), rest)
    | _ => none

def item : Nat → List Lexeme → Option (Formula × List Lexeme)
  | 0, _ => none
  | fuel + 1, .operator .times :: ls => do
    let (values, rest) ← sum fuel ls
    some (.spread values, rest)
  | fuel + 1, ls => sum fuel ls

end

/-- The values that commas separate outside all parentheses. -/
def values : Nat → Nat → List Lexeme → Option (List Formula)
  | 0, _, _ => none
  | _ + 1, _, [] => some []
  | count + 1, fuel, ls => do
    let (first, rest) ← sum fuel ls
    match rest with
    | [] => some [first]
    | .comma :: rest => (values count fuel rest).map (first :: ·)
    | _ => none

def ofLexemes? (ls : List Lexeme) : Option Formula := do
  let items ← values (ls.length + 1) (8 * (ls.length + 2)) ls
  match items with
  | [] => none
  | [item] => if ls.getLast? = some .comma then some (.tuple [item]) else some item
  | items => some (.tuple items)

def ofText? (text : String) : Option Formula := (Lexeme.ofText? text).bind ofLexemes?

end Formula

end PlotLang.Expression
