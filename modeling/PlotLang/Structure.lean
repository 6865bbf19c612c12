import PlotLang.Diagnostic
import PlotLang.Token

/-! # Block structure

A necessary condition on a token list, checked before a program is built from it: after the last
`end` no block is opened, and exactly one `root` is declared. It does not establish that each
block has an `end` of its own.
-/

namespace PlotLang.Structure

inductive Error where
  | unclosed (opener : Token)
  | repeatedRoot (second : Token)
  | missingRoot
  deriving DecidableEq, Repr

def Error.diagnostic : Error → Diagnostic
  | .unclosed opener =>
    ⟨"Missing 'end' keyword for declaration '" ++ opener.text ++ "'", some opener.line, none⟩
  | .repeatedRoot second => ⟨"Multiple 'root' declarations", some second.line, none⟩
  | .missingRoot => ⟨"Missing 'root' declaration", none, none⟩

def afterLastEnd (tokens : List Token) : List Token :=
  (tokens.reverse.takeWhile fun t => !t.isEnd).reverse

def check (tokens : List Token) : Except Error Unit :=
  match (afterLastEnd tokens).find? Token.opensBlock with
  | some opener => .error (.unclosed opener)
  | none =>
    match tokens.filter Token.isRoot with
    | [] => .error .missingRoot
    | [_] => .ok ()
    | _ :: second :: _ => .error (.repeatedRoot second)

end PlotLang.Structure
