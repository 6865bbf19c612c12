import PlotLang.Command.Switch
import PlotLang.Drawing
import PlotLang.Text.Quoted

/-! # Faults of an argument list -/

namespace PlotLang.Command

inductive Problem where
  | ambiguous (argument : String) (spellings : List String)
  | unusedValue (s : Switch) (value : String)
  | missingValue (s : Switch)
  | unreadablePrecision (value : String)
  | precisionOutOfRange
  | sourceAfterPath
  | pathAfterSource
  | missingSource
  | missingCommand
  | unknownCommand (name : String)
  | unrecognized (arguments : List String)
  deriving DecidableEq, Repr

namespace Problem

def concerning (label message : String) : String := "argument " ++ label ++ ": " ++ message

def text : Problem → String
  | .ambiguous argument spellings =>
    "ambiguous option: " ++ argument ++ " could match " ++ ", ".intercalate spellings
  | .unusedValue s value =>
    concerning s.label ("ignored explicit argument " ++ Text.Quoted.quote value)
  | .missingValue s => concerning s.label "expected one argument"
  | .unreadablePrecision value =>
    concerning Switch.precision.label ("invalid precision " ++ Text.Quoted.quote value)
  | .precisionOutOfRange => concerning Switch.precision.label Options.precisionText
  | .sourceAfterPath => concerning Switch.source.label "not allowed with argument path"
  | .pathAfterSource => concerning "path" ("not allowed with argument " ++ Switch.source.label)
  | .missingSource => "one of the arguments path " ++ Switch.source.label ++ " is required"
  | .missingCommand => "the following arguments are required: cmd"
  | .unknownCommand name =>
    let names := ", ".intercalate (all.map fun c => Text.Quoted.quote c.name)
    let choices := " (choose from " ++ names ++ ")"
    concerning "cmd" ("invalid choice: " ++ Text.Quoted.quote name ++ choices)
  | .unrecognized arguments => "unrecognized arguments: " ++ " ".intercalate arguments

end Problem

/-- A problem among the arguments of a command, or before or outside those. -/
structure Usage where
  command : Option Command
  problem : Problem
  deriving DecidableEq, Repr

def programName : String := "gplot"

def Usage.text (u : Usage) : String :=
  let speaker := match u.command with
    | some c => programName ++ " " ++ c.name
    | none => programName
  speaker ++ ": error: " ++ u.problem.text

def helpText : String := "\n".intercalate
  ["usage: gplot [-h] [-v] compile [-o OUTPUT] [--precision N] [--no-xml-declaration] SOURCE",
    "       gplot [-h] [-v] check SOURCE",
    "       gplot [-h] [-v] tokens SOURCE",
    "",
    "Compiles a plot program to an SVG document, checks it, or lists its tokens.",
    "SOURCE is a path, a single dash for the standard input, or -e with the text itself.",
    "The exit status is 0 on success and 2 after an error.",
    ""]

end PlotLang.Command
