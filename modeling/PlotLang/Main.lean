import PlotLang.Command
import PlotLang.Expression.Calculator

/-! # The command line program

Streams and files are reached here. What is read, written and said is decided by the modules above.
-/

namespace PlotLang.Main

open Command

/-- The number by which the system refuses something, and the reason it gives. -/
def refusal : IO.Error → Nat × String
  | .noFileOrDirectory _ number reason | .alreadyExists _ number reason
  | .inappropriateType _ number reason | .invalidArgument _ number reason
  | .permissionDenied _ number reason | .resourceExhausted _ number reason
  | .noSuchThing _ number reason => (number.toNat, reason)
  | error => (0, toString error)

def attempt {α : Type} (path? : Option String) (action : IO α) : ExceptT Raised IO α :=
  ExceptT.mk do
    if path?.all Path.wellFormed then
      try
        return .ok (← action)
      catch error =>
        let (number, reason) := refusal error
        return .error (Path.refused number reason path?)
    else return .error Path.malformed

def named {α : Type} (path : String) (action : IO α) : ExceptT Raised IO α :=
  attempt (some path) action

def host : Host IO IO.FS.Handle where
  readFile path := do return (← named path (IO.FS.readBinFile path)).toList
  readInput := do return (← (← IO.getStdin).readBinToEnd).toList
  location := do return Path.resolve [] (← attempt none IO.currentDir).toString
  makeDirectories p := named (Path.text p) (IO.FS.createDirAll (Path.text p))
  create path := named path (IO.FS.Handle.mk path .write)
  write handle content := attempt none (handle.write (ByteArray.mk content.toArray))
  print := IO.print
  printError := IO.eprint

end PlotLang.Main

def main (arguments : List String) : IO UInt32 := do
  match ← PlotLang.Command.program PlotLang.Expression.Calculator.library PlotLang.Main.host
    arguments with
  | .exit status => return UInt32.ofNat status
  | .abnormal e =>
    IO.eprintln (e.name ++ ": " ++ e.text)
    return 1
