/-! # Tokens

A plot program is read as a flat list of tokens. The tables here are the fixed vocabulary; names
introduced by `#define` are added to it while a source is scanned.
-/

namespace PlotLang

inductive Token.Kind where
  | string
  | integer
  | float
  | hexColor
  | comma
  | keyword
  | declaration
  | shapeFunction
  | newIdentifier
  | variable
  | define
  deriving DecidableEq, Repr

structure Token where
  line : Int
  kind : Token.Kind
  text : String
  deriving DecidableEq, Repr

namespace Token

def Kind.all : List Kind :=
  [.string, .integer, .float, .hexColor, .comma, .keyword, .declaration, .shapeFunction,
    .newIdentifier, .variable, .define]

def Kind.tag : Kind → String
  | .string => "STRING"
  | .integer => "INTEGER"
  | .float => "FLOAT"
  | .hexColor => "HEX_COLOR"
  | .comma => "COMMA"
  | .keyword => "KEYWORD"
  | .declaration => "DECLARATION"
  | .shapeFunction => "SHAPE_FUNCTION"
  | .newIdentifier => "VARNAME"
  | .variable => "VAR"
  | .define => "DEFINE_MARKER"

def Kind.ofTag? (tag : String) : Option Kind :=
  Kind.all.find? fun kind => kind.tag == tag

def Kind.description : Kind → String
  | .string => "string"
  | .integer => "integer"
  | .float => "float"
  | .hexColor => "hexadecimal color"
  | .comma => "comma"
  | .keyword => "keyword"
  | .declaration => "declaration"
  | .shapeFunction => "shape function"
  | .newIdentifier => "new identifier"
  | .variable => "variable"
  | .define => "define"

def Kind.numbers : List Kind := [.integer, .float]

/-- The descriptions of a set of kinds, each once, in alphabetical order. -/
def Kind.describe (kinds : List Kind) : String :=
  ", ".intercalate <|
    (((Kind.all.filter (· ∈ kinds)).map Kind.description).mergeSort fun a b => a ≤ b)

def isEnd (t : Token) : Bool :=
  t.kind = .declaration && t.text == "end"

/-- Every block is opened by a definition, a shape or a declaration other than `end`. -/
def opensBlock (t : Token) : Bool :=
  match t.kind with
  | .define | .shapeFunction => true
  | .declaration => t.text != "end"
  | _ => false

def isRoot (t : Token) : Bool :=
  t.kind = .declaration && t.text == "root"

def listing (t : Token) : String :=
  toString t.line ++ "\t" ++ t.kind.tag ++ "\t" ++ t.text

end Token

namespace Vocabulary

def declarations : List String := ["root", "grid", "define", "include", "end"]

def shapes : List String := ["line", "graph", "point"]

def keywords : List String :=
  ["min", "max", "name", "color", "background", "alpha", "thickness", "function", "from", "to",
    "axes", "axis", "box", "at", "step"]

end Vocabulary

end PlotLang
