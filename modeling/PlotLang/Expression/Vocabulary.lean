import PlotLang.Expression.Fault
import PlotLang.Text.Ranges
import PlotLang.Text.Digit

/-! # The vocabulary of functions

Before a function is read, its text is scanned for anything but numbers, operators and known names.
A number here is a run of digits with at most one point, a name a run of ASCII letters; the name of
a function has to be followed by an opening parenthesis.
-/

namespace PlotLang.Expression.Vocabulary

open Text

def isAsciiLetter (c : Char) : Bool := ('a' ≤ c && c ≤ 'z') || ('A' ≤ c && c ≤ 'Z')

def isOperator (c : Char) : Bool := "+-*/^(),".toList.contains c

/-- What follows a number, given what follows its first digit. -/
def afterNumber (cs : List Char) : List Char :=
  match cs.dropWhile isDecimalDigit with
  | '.' :: rest => rest.dropWhile isDecimalDigit
  | rest => rest

/-- What follows a number or an operator at the head of a text. -/
def afterNameless? : List Char → Option (List Char)
  | '.' :: d :: rest => if isDecimalDigit d then some (rest.dropWhile isDecimalDigit) else none
  | c :: rest =>
    if isDecimalDigit c then some (afterNumber rest)
    else if isOperator c then some rest
    else none
  | [] => none

def isCalled (cs : List Char) : Bool := (trimLeft cs).head? = some '('

def checkName (name : String) (rest : List Char) : Except Fault Unit :=
  let called := isCalled rest
  if name ∈ constantNames || (called && name ∈ functionNames) then .ok ()
  else .error (.unknownName called name)

/-- Checks a text that does not end in a blank, a number, name or operator at a time. -/
def scan : Nat → List Char → Except Fault Unit
  | 0, _ => .ok ()
  | fuel + 1, cs =>
    if cs.isEmpty then .ok ()
    else match trimLeft cs with
      | [] => .error (.unexpectedCharacter "")
      | c :: rest =>
        if isAsciiLetter c then do
          let after := (c :: rest).dropWhile isAsciiLetter
          checkName (String.ofList ((c :: rest).takeWhile isAsciiLetter)) after
          scan fuel after
        else match afterNameless? (c :: rest) with
          | some after => scan fuel after
          | none => .error (.unexpectedCharacter (String.singleton c))

def check (text : String) : Except Fault Unit :=
  let body := trimRight text.toList
  scan body.length body

end PlotLang.Expression.Vocabulary
