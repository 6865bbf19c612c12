import PlotLang.Command.Host

/-! # Machines

A system of files is given by what its operations answer in each state and by the state they leave.
A machine has such a state and the texts written to its two streams.
-/

namespace PlotLang.Command

structure FileSystem (σ Handle : Type) where
  read : σ → String → Except Raised (List UInt8)
  location : σ → Except Raised Path
  makeDirectories : Path → σ → Except Raised Unit × σ
  create : String → σ → Except Raised Handle × σ
  write : Handle → List UInt8 → σ → Except Raised Unit × σ

structure Machine (σ : Type) where
  files : σ
  output : String
  errors : String

namespace Machine

variable {σ ε α : Type}

def start (files : σ) : Machine σ := ⟨files, "", ""⟩

def printed (s : Machine σ) (text : String) : Machine σ := { s with output := s.output ++ text }

def complained (s : Machine σ) (text : String) : Machine σ := { s with errors := s.errors ++ text }

/-- The answer of an action on a machine, and the machine after it. -/
def perform (s : Machine σ) (act : StateM (Machine σ) α) : α × Machine σ := (act.run s).run

/-- The outcome of an action that may fail. -/
def attempt (s : Machine σ) (act : ExceptT ε (StateM (Machine σ)) α) : Except ε α × Machine σ :=
  s.perform act.run

end Machine

namespace FileSystem

variable {σ Handle α : Type}

def asking (question : σ → Except Raised α) : ExceptT Raised (StateM (Machine σ)) α :=
  ExceptT.mk fun s => (question s.files, s)

def acting (action : σ → Except Raised α × σ) : ExceptT Raised (StateM (Machine σ)) α :=
  ExceptT.mk fun s =>
    let (outcome, files) := action s.files
    (outcome, { s with files })

/-- The host that a machine with a given standard input is. -/
def host (fs : FileSystem σ Handle) (input : List UInt8) :
    Host (StateM (Machine σ)) Handle where
  readFile path := asking (fs.read · path)
  readInput := pure input
  location := asking fs.location
  makeDirectories path := acting (fs.makeDirectories path)
  create path := acting (fs.create path)
  write handle content := acting (fs.write handle content)
  print text := modify (·.printed text)
  printError text := modify (·.complained text)

end FileSystem

end PlotLang.Command
