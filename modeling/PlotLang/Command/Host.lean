import PlotLang.Diagnostic
import PlotLang.Text.Quoted

/-! # The system a command runs on

A command reaches files and streams by the operations of a host and in no other way. What the system
refuses is an exception of an operation.
-/

namespace PlotLang

/-- Names from the root down. -/
abbrev Path : Type := List String

namespace Path

def step (p : Path) (name : String) : Path :=
  if name = "" || name = "." then p else if name = ".." then p.dropLast else p ++ [name]

def names (path : String) : List String := (path.toList.splitOn '/').map String.ofList

def isAbsolute (path : String) : Bool := path.startsWith "/"

/-- A path taken as it reads: a name followed by two points is as if it were not there. -/
def resolve (start : Path) (path : String) : Path := (names path).foldl step start

def text (p : Path) : String := "/" ++ "/".intercalate p

def wellFormed (path : String) : Bool := '\x00' ∉ path.toList

def malformed : Raised := .ofValue "embedded null byte"

/-- A refusal of the system by its number, with the path it is about if there is one. -/
def refused (number : Nat) (reason : String) (path? : Option String) : Raised :=
  let about := match path? with
    | some path => ": " ++ Text.Quoted.quote path
    | none => ""
  .ofSystem ("[Errno " ++ toString number ++ "] " ++ reason ++ about)

end Path

namespace Command

structure Host (m : Type → Type) (Handle : Type) where
  readFile : String → ExceptT Raised m (List UInt8)
  readInput : m (List UInt8)
  /-- The working directory. -/
  location : ExceptT Raised m Path
  /-- Makes a directory and those above it, as far as they are missing. -/
  makeDirectories : Path → ExceptT Raised m Unit
  /-- Makes a file, or empties the one that is there. -/
  create : String → ExceptT Raised m Handle
  write : Handle → List UInt8 → ExceptT Raised m Unit
  print : String → m Unit
  printError : String → m Unit

namespace Host

variable {m : Type → Type} [Monad m] {Handle : Type}

def absolute (host : Host m Handle) (path : String) : ExceptT Raised m Path := do
  if Path.isAbsolute path then return Path.resolve [] path
  else return Path.resolve (← host.location) path

/-- Makes the directory that a file is to be in. -/
def makeParent (host : Host m Handle) (path : String) : ExceptT Raised m Unit := do
  host.makeDirectories (← host.absolute path).dropLast

end Host

end Command

end PlotLang
