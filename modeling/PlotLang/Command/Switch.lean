/-! # Commands and their switches -/

namespace PlotLang

inductive Command where
  | compile
  | check
  | tokens
  deriving DecidableEq, Repr

namespace Command

def all : List Command := [.compile, .check, .tokens]

def name : Command → String
  | .compile => "compile"
  | .check => "check"
  | .tokens => "tokens"

def ofName? (name : String) : Option Command := all.find? (·.name == name)

inductive Switch where
  | help
  | verbose
  | source
  | output
  | precision
  | noDeclaration
  deriving DecidableEq, Repr

namespace Switch

def spellings : Switch → List String
  | .help => ["-h", "--help"]
  | .verbose => ["-v", "--verbose"]
  | .source => ["-e", "--source"]
  | .output => ["-o", "--output"]
  | .precision => ["--precision"]
  | .noDeclaration => ["--no-xml-declaration"]

def takesValue : Switch → Bool
  | .source | .output | .precision => true
  | .help | .verbose | .noDeclaration => false

def label (s : Switch) : String := "/".intercalate s.spellings

/-- The switches known after a command, or before it. -/
def known : Option Command → List Switch
  | none => [.help, .verbose]
  | some .compile => [.help, .source, .output, .precision, .noDeclaration]
  | some _ => [.help, .source]

end Switch

end Command

end PlotLang
