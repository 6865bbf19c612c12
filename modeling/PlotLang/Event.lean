import PlotLang.Text.Quoted

/-! # Events

What happens on the way from a source to its result, for a reader who asks to be told.
-/

namespace PlotLang

inductive Event where
  | scanned (tokens identifiers : Nat)
  | built (definitions : Nat) (hasGrid : Bool) (shapes : Nat)
  | sampled (function : String) (drawn skipped : Nat)
  | emptySource
  | wrote (path : String)
  deriving DecidableEq, Repr

def Event.text : Event → String
  | .scanned tokens identifiers =>
    "lexed " ++ toString tokens ++ " tokens, " ++ toString identifiers ++ " identifiers"
  | .built definitions hasGrid shapes =>
    "built program: " ++ toString definitions ++ " definitions, grid=" ++
      (if hasGrid then "True" else "False") ++ ", " ++ toString shapes ++ " shapes"
  | .sampled function drawn skipped =>
    "graph " ++ Text.Quoted.quote function ++ ": " ++ toString drawn ++ " samples, " ++
      toString skipped ++ " skipped"
  | .emptySource => "empty source, nothing to compile"
  | .wrote path => "wrote " ++ path

end PlotLang
