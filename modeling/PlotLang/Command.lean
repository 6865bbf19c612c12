import PlotLang.Command.Arguments
import PlotLang.Command.FileSystem
import PlotLang.Compilation
import PlotLang.Summary
import PlotLang.Text.Utf8

/-! # Running a command

A command reads one source, works on it and then prints the result or saves it. Each command is an
action on a host, so that the order of what it does can be seen on any system.
-/

namespace PlotLang.Command

open Text

variable {m : Type → Type} [Monad m] {Handle α : Type}

/-! ## Reading a source -/

/-- A line may end in a line feed, in a carriage return or in the two together; text that is read
from a file or a stream has line feeds only. -/
def unifyBreaks : List Char → List Char
  | '\r' :: '\n' :: cs => '\n' :: unifyBreaks cs
  | '\r' :: cs => '\n' :: unifyBreaks cs
  | c :: cs => c :: unifyBreaks cs
  | [] => []

def textOf (bytes : List UInt8) : Except Raised String :=
  match Utf8.decode bytes with
  | .ok cs => .ok (String.ofList (unifyBreaks cs))
  | .error fault => .error (.undecodable fault.text)

def Source.read (host : Host m Handle) : Source → ExceptT Raised m String
  | .inline text => pure text
  | .standardInput => do ofExcept (textOf (← host.readInput))
  | .file path => do ofExcept (textOf (← host.readFile path))

/-! ## The commands -/

def logLine (event : Event) : String := "DEBUG " ++ programName ++ ": " ++ event.text ++ "\n"

def tell (host : Host m Handle) (verbose : Bool) (events : List Event) : m Unit :=
  if verbose then events.forM fun event => host.printError (logLine event) else pure ()

/-- The value of a computation; what has happened is told also when it fails. -/
def settle (host : Host m Handle) (verbose : Bool) (r : Compilation.Reported α) :
    ExceptT Thrown m α := do
  ExceptT.lift (tell host verbose r.1)
  match r.2 with
  | .ok a => return a
  | .error failure => throw failure.thrown

def raising (act : ExceptT Raised m α) : ExceptT Thrown m α := act.adapt Thrown.raised

def octets (text : String) : List UInt8 := Utf8.encode text.toList

def save (host : Host m Handle) (path text : String) : ExceptT Raised m Unit := do
  host.makeParent path
  let handle ← host.create path
  host.write handle (octets text)

def printLines (host : Host m Handle) (lines : List String) : m Unit :=
  lines.forM fun line => host.print (line ++ "\n")

def Task.perform (library : Expression.Library) (host : Host m Handle) (verbose : Bool)
    (source : String) : Task → ExceptT Thrown m Unit
  | .compile output options => do
    let text ← settle host verbose (Compilation.document library source options)
    match output with
    | none => host.print text
    | some path => do
      raising (save host path text)
      ExceptT.lift (tell host verbose [.wrote path])
  | .check => do
    let p ← settle host verbose (Compilation.program source)
    ExceptT.lift (printLines host (Summary.lines p))
  | .tokens => do
    let ts ← settle host verbose (Compilation.tokens source)
    ExceptT.lift (printLines host (ts.map Token.listing))

/-- The work on a source. An empty one is not worked on. -/
def Invocation.perform (library : Expression.Library) (host : Host m Handle) (i : Invocation)
    (source : String) : ExceptT Thrown m Unit :=
  if source.isEmpty then ExceptT.lift (tell host i.verbose [.emptySource])
  else i.task.perform library host i.verbose source

/-! ## The program -/

inductive Ending where
  | exit (status : Nat)
  | abnormal (e : Raised)
  deriving DecidableEq, Repr

/-- A diagnostic and a refusal of the system are told; any other exception ends the program. -/
def conclude (host : Host m Handle) : Except Thrown Unit → m Ending
  | .ok _ => return .exit 0
  | .error (.diagnosed d) => do
    host.printError ("[ERROR]: " ++ d.text ++ "\n")
    return .exit 2
  | .error (.raised e) =>
    if e.isAny [.system] then do
      host.printError ("File error: " ++ e.text ++ "\n")
      return .exit 2
    else return .abnormal e

def Invocation.answer (library : Expression.Library) (host : Host m Handle) (i : Invocation)
    (source : String) : m Ending := do
  conclude host (← (i.perform library host source).run)

def Invocation.respond (library : Expression.Library) (host : Host m Handle) (i : Invocation) :
    m Ending := do
  match ← (i.source.read host).run with
  | .ok source => i.answer library host source
  | .error e => conclude host (.error (.raised e))

def program (library : Expression.Library) (host : Host m Handle) (arguments : List String) :
    m Ending :=
  match read arguments with
  | .ok i => i.respond library host
  | .error .help => do
    host.print helpText
    return .exit 0
  | .error (.fault usage) => do
    host.printError (usage.text ++ "\n")
    return .exit 2

/-- What the program writes to its two streams, and how it ends. -/
structure Report where
  output : String
  errors : String
  ending : Ending
  deriving DecidableEq, Repr

variable {σ : Type}

def report (r : Ending × Machine σ) : σ × Report :=
  (r.2.files, ⟨r.2.output, r.2.errors, r.1⟩)

/-- Runs the program on its arguments, the files and the standard input. -/
def run (library : Expression.Library) (fs : FileSystem σ Handle) (arguments : List String)
    (files : σ) (input : List UInt8) : σ × Report :=
  report ((Machine.start files).perform (program library (fs.host input) arguments))

end PlotLang.Command
