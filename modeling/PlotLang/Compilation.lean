import PlotLang.Drawing
import PlotLang.Program.Builder
import PlotLang.Token.Lexer

/-! # From a source to its result

Each stage runs only if the one before it succeeded, and what the stages report is kept also when a
later one fails.
-/

namespace PlotLang

inductive Failure where
  | scanning (error : Lexer.Error)
  | building (fault : Builder.Fault)
  | drawing (fault : Curve.Fault)

namespace Failure

/-- A diagnostic, or else the exception that is raised. -/
def thrown : Failure → Thrown
  | .scanning error => .diagnosed error.diagnostic
  | .building (.unreadableNumber text) =>
    .raised (.ofValue (Builder.Fault.unreadableNumber text).diagnostic.message)
  | .building fault => .diagnosed fault.diagnostic
  | .drawing (.function (.diagnosed text fault)) => .diagnosed (fault.diagnostic text)
  | .drawing (.function (.raised e)) => .raised e
  | .drawing .infiniteWidth => .raised (.overflow Curve.infiniteWidthText)
  | .drawing .undefinedWidth => .raised (.ofValue Curve.undefinedWidthText)

def diagnostic? (failure : Failure) : Option Diagnostic :=
  match failure.thrown with
  | .diagnosed d => some d
  | .raised _ => none

end Failure

namespace Compilation

abbrev Reported (α : Type) : Type := List Event × Except Failure α

def tokens (source : String) : Reported (List Token) :=
  match Lexer.scan source with
  | (final, none) =>
    ([.scanned final.tokens.size final.identifiers.size], .ok final.tokens.toList)
  | (_, some error) => ([], .error (.scanning error))

def program (source : String) : Reported Program :=
  match tokens source with
  | (events, .error failure) => (events, .error failure)
  | (events, .ok ts) =>
    match Builder.buildChecked ts with
    | .error fault => (events, .error (.building fault))
    | .ok p =>
      (events ++ [.built p.definitions.length p.grid.isSome p.shapes.length], .ok p)

def draw (library : Expression.Library) (p : Program) (options : Options) : Reported String :=
  let (events, drawn) := Drawing.render library p options
  (events, drawn.mapError Failure.drawing)

/-- The document of a source; an empty source has an empty one. -/
def document (library : Expression.Library) (source : String) (options : Options) :
    Reported String :=
  if source.isEmpty then ([], .ok "")
  else match program source with
    | (events, .error failure) => (events, .error failure)
    | (events, .ok p) =>
      let (more, drawn) := draw library p options
      (events ++ more, drawn)

end Compilation

end PlotLang
