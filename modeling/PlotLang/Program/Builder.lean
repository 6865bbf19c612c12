import PlotLang.Number.Literal
import PlotLang.Program
import PlotLang.Structure
import PlotLang.Text.LowerCase
import PlotLang.Token.Cursor

/-! # Building a program from tokens

The token list is walked once, block by block. A block's fields are gathered first and its
contribution is added to the draft only when the block has closed and nothing mandatory is absent,
so a block that fails leaves the draft as it was.
-/

namespace PlotLang.Builder

open Token (Kind)

inductive Fault where
  | read (fault : ReadFault)
  | unreadableNumber (text : String)
  | invalidColor (keyword digits : Token)
  | alphaOutOfRange (keyword : Token)
  | stepNotPositive (keyword : Token)
  | undefinedVariable (axis : Token)
  | missingName (after : Token)
  | missingField (keyword : String) (hint : String) (opener : Token)
  | repeatedGrid (opener : Token)
  | unknownDeclaration (opener : Token)
  | unknownShape (opener : Token)
  | malformed (error : Structure.Error)
  deriving DecidableEq, Repr

def Fault.diagnostic : Fault → Diagnostic
  | .read fault => fault.diagnostic
  | .unreadableNumber text =>
    ⟨"could not convert string to float: " ++ Text.Quoted.quote text, none, none⟩
  | .invalidColor keyword digits =>
    ⟨"Invalid color '0x" ++ digits.text ++ "' after '" ++ keyword.text ++ "'", some digits.line,
      some "Write colors as 0xRGB or 0xRRGGBB"⟩
  | .alphaOutOfRange keyword => ⟨"Alpha value must be between 0 and 1", some keyword.line, none⟩
  | .stepNotPositive keyword => ⟨"Step value must be greater than 0", some keyword.line, none⟩
  | .undefinedVariable axis =>
    ⟨"Undefined variable '" ++ axis.text ++ "'", some axis.line,
      some "Axes must reference a #define'd variable"⟩
  | .missingName after => ⟨"Missing variable name after 'define' keyword", some after.line, none⟩
  | .missingField keyword hint opener =>
    ⟨"Missing '" ++ keyword ++ "' keyword", some opener.line, some hint⟩
  | .repeatedGrid opener => ⟨"Multiple 'grid' declarations", some opener.line, none⟩
  | .unknownDeclaration opener =>
    ⟨"Unknown declaration '" ++ opener.text ++ "'", some opener.line, none⟩
  | .unknownShape opener => ⟨"Unknown function '" ++ opener.text ++ "'", some opener.line, none⟩
  | .malformed error => error.diagnostic

/-- A reader takes tokens from a cursor; a fault keeps the cursor it happened at. -/
def Reader (α : Type) : Type := Cursor → Except Fault α × Cursor

namespace Reader

def pure (a : α) : Reader α := fun c => (.ok a, c)

def bind (r : Reader α) (f : α → Reader β) : Reader β := fun c =>
  match r c with
  | (.ok a, next) => f a next
  | (.error fault, stopped) => (.error fault, stopped)

instance : Monad Reader where
  pure := pure
  bind := bind

def fail (fault : Fault) : Reader α := fun c => (.error fault, c)

def ofRead (read : Cursor → Except ReadFault α × Cursor) : Reader α := fun c =>
  match read c with
  | (.ok a, next) => (.ok a, next)
  | (.error fault, stopped) => (.error (.read fault), stopped)

def require (condition : Bool) (fault : Fault) : Reader Unit :=
  if condition then pure () else fail fault

def get (field : Option α) (fault : Fault) : Reader α :=
  match field with
  | some value => pure value
  | none => fail fault

end Reader

/-! ## Values, read after their keyword -/

def numeral (t : Token) : Reader Binary64 :=
  match Literal.real? t.text with
  | some value => Reader.pure value
  | none => Reader.fail (.unreadableNumber t.text)

def number (keyword : Token) : Reader Binary64 := do
  numeral (← Reader.ofRead (Cursor.readOne keyword Kind.numbers .number))

def string (keyword : Token) : Reader String := do
  let t ← Reader.ofRead (Cursor.readOne keyword [.string] .string)
  return t.text

def color (keyword : Token) : Reader String := do
  let t ← Reader.ofRead (Cursor.readOne keyword [.hexColor] .color)
  let length := t.text.length
  Reader.require (length = 3 || length = 6) (.invalidColor keyword t)
  return Text.lowerCase t.text

def numerals (keyword : Token) (count : Nat) : Reader (List Token) :=
  Reader.ofRead (Cursor.readTuple keyword Kind.numbers count)

def pair (keyword : Token) : Reader Point := do
  match ← numerals keyword 2 with
  | [x, y] => return ⟨← numeral x, ← numeral y⟩
  | _ => Reader.fail (.read (.missingValues keyword 2))

def box (keyword : Token) : Reader Box := do
  match ← numerals keyword 4 with
  | [x, y, width, height] =>
    return ⟨← numeral x, ← numeral y, ← numeral width, ← numeral height⟩
  | _ => Reader.fail (.read (.missingValues keyword 4))

def alpha (keyword : Token) : Reader Binary64 := do
  let value ← number keyword
  Reader.require (Binary64.le 0 value && value.le 1) (.alphaOutOfRange keyword)
  return value

def step (keyword : Token) : Reader Binary64 := do
  let value ← number keyword
  Reader.require (Binary64.lt 0 value) (.stepNotPositive keyword)
  return value

/-- The first definition of a name is the one that counts. -/
def lookup (definitions : List Definition) (axis : Token) : Reader Definition :=
  Reader.get (definitions.find? fun d => d.identifier == axis.text) (.undefinedVariable axis)

def axes (definitions : List Definition) (keyword : Token) : Reader (Definition × Definition) := do
  match ← Reader.ofRead (Cursor.readTuple keyword [.variable] 2) with
  | [first, second] => return (← lookup definitions first, ← lookup definitions second)
  | _ => Reader.fail (.read (.missingValues keyword 2))

/-! ## Fields of a block -/

/-- The fields a block allows: each keyword with a reader of its value, which answers how the value
changes what has been gathered. -/
abbrev Fields (φ : Type) := List (String × (Token → Reader (φ → φ)))

def Fields.keywords (fields : Fields φ) : List String := fields.map (·.1)

/-- Fields up to and including the block's `end`. Each takes at least its keyword, so as many
fields as tokens are enough. -/
def readFields (opener : Token) (fields : Fields φ) : Nat → φ → Reader φ
  | 0, _ => Reader.fail (.malformed (.unclosed opener))
  | fuel + 1, gathered => fun c =>
    match c.rest with
    | [] => (.error (.malformed (.unclosed opener)), c)
    | t :: rest =>
      let next : Cursor := ⟨rest, c.position + 1⟩
      if t.isEnd then (.ok gathered, next)
      else if t.kind = .keyword then
        match fields.lookup t.text with
        | some reader =>
          Reader.bind (reader t)
            (fun change => readFields opener fields fuel (change gathered)) next
        | none => (.error (.read (.unexpected t (.field fields.keywords))), c)
      else (.error (.read (.unexpected t (.field fields.keywords))), c)

def readBlock (opener : Token) (fields : Fields φ) (empty : φ) : Reader φ := fun c =>
  readFields opener fields c.rest.length empty c

structure DefinitionFields where
  minimum : Option Binary64 := none
  maximum : Option Binary64 := none
  name : Option String := none

def definitionFields : Fields DefinitionFields :=
  [("min", fun k => do let v ← number k; return fun f => { f with minimum := some v }),
    ("max", fun k => do let v ← number k; return fun f => { f with maximum := some v }),
    ("name", fun k => do let v ← string k; return fun f => { f with name := some v })]

structure RootFields where
  box : Option Box := none
  color : Option String := none
  background : Option String := none
  axes : Option (Definition × Definition) := none

/-- `axes` and `axis` are one field. -/
def rootFields (definitions : List Definition) : Fields RootFields :=
  [("box", fun k => do let v ← box k; return fun f => { f with box := some v }),
    ("color", fun k => do let v ← color k; return fun f => { f with color := some v }),
    ("background", fun k => do let v ← color k; return fun f => { f with background := some v }),
    ("axes", fun k => do let v ← axes definitions k; return fun f => { f with axes := some v }),
    ("axis", fun k => do let v ← axes definitions k; return fun f => { f with axes := some v })]

def gridFields : Fields Grid :=
  [("color", fun k => do let v ← color k; return fun g => { g with color := v }),
    ("alpha", fun k => do let v ← alpha k; return fun g => { g with alpha := v }),
    ("thickness", fun k => do let v ← number k; return fun g => { g with thickness := v }),
    ("step", fun k => do let v ← step k; return fun g => { g with step := v })]

structure ShapeFields where
  start : Option Point := none
  finish : Option Point := none
  location : Option Point := none
  function : Option String := none
  name : Option String := none
  color : Option String := none
  thickness : Option Binary64 := none

def nameField : String × (Token → Reader (ShapeFields → ShapeFields)) :=
  ("name", fun k => do let v ← string k; return fun f => { f with name := some v })

def colorField : String × (Token → Reader (ShapeFields → ShapeFields)) :=
  ("color", fun k => do let v ← color k; return fun f => { f with color := some v })

def thicknessField : String × (Token → Reader (ShapeFields → ShapeFields)) :=
  ("thickness", fun k => do let v ← number k; return fun f => { f with thickness := some v })

def lineFields : Fields ShapeFields :=
  [("from", fun k => do let v ← pair k; return fun f => { f with start := some v }),
    ("to", fun k => do let v ← pair k; return fun f => { f with finish := some v }),
    thicknessField, nameField, colorField]

def graphFields : Fields ShapeFields :=
  [("function", fun k => do let v ← string k; return fun f => { f with function := some v }),
    thicknessField, nameField, colorField]

def pointFields : Fields ShapeFields :=
  [("at", fun k => do let v ← pair k; return fun f => { f with location := some v }),
    nameField, colorField]

/-! ## Blocks -/

/-- What has been collected from the blocks read so far. -/
structure Draft where
  definitions : List Definition := []
  root : Option Root := none
  grid : Option Grid := none
  shapes : List Shape := []
  deriving DecidableEq

def nameAfter (marker : Token) : Reader Token := fun c =>
  match c.rest with
  | [] => (.error (.missingName marker), c)
  | t :: rest =>
    if t.kind = .newIdentifier then (.ok t, ⟨rest, c.position + 1⟩)
    else (.error (.missingName t), c)

def readDefinition (marker : Token) : Reader Definition := do
  let name ← nameAfter marker
  let fields ← readBlock marker definitionFields {}
  let maximum ← Reader.get fields.maximum <| .missingField "max"
    ("Need to specify a maximum value for the variable '" ++ name.text ++ "'") marker
  return ⟨name.text, fields.name, fields.minimum.getD 0, maximum⟩

def readRoot (definitions : List Definition) (opener : Token) : Reader Root := do
  let fields ← readBlock opener (rootFields definitions) {}
  let box ← Reader.get fields.box <|
    .missingField "box" "Need to specify a box for the root" opener
  let (xAxis, yAxis) ← Reader.get fields.axes <|
    .missingField "axis" "Need to specify axes for the root" opener
  return ⟨box, fields.color.getD defaultStroke, fields.background.getD defaultBackground,
    xAxis, yAxis⟩

def readGrid (present : Bool) (opener : Token) : Reader Grid := do
  Reader.require (!present) (.repeatedGrid opener)
  readBlock opener gridFields Grid.default

def required (field : Option α) (keyword : String) (opener : Token) : Reader α :=
  Reader.get field <| .missingField keyword
    ("Need to specify '" ++ keyword ++ "' for '@" ++ opener.text ++ "'") opener

def readShape (opener : Token) : Reader Shape :=
  match opener.text with
  | "line" => do
    let f ← readBlock opener lineFields {}
    let start ← required f.start "from" opener
    let finish ← required f.finish "to" opener
    return .line start finish f.name f.color f.thickness
  | "graph" => do
    let f ← readBlock opener graphFields {}
    let function ← required f.function "function" opener
    return .graph function f.name f.color f.thickness
  | "point" => do
    let f ← readBlock opener pointFields {}
    let location ← required f.location "at" opener
    return .point location f.name f.color
  | _ => Reader.fail (.unknownShape opener)

/-- One block from its opening token on, and the draft it leads to. -/
def readBlockInto (draft : Draft) (opener : Token) : Reader Draft :=
  match opener.kind with
  | .define => do
    let definition ← readDefinition opener
    return { draft with definitions := draft.definitions ++ [definition] }
  | .declaration =>
    match opener.text with
    | "root" => do
      let root ← readRoot draft.definitions opener
      return { draft with root := some root }
    | "grid" => do
      let grid ← readGrid draft.grid.isSome opener
      return { draft with grid := some grid }
    | _ => Reader.fail (.unknownDeclaration opener)
  | .shapeFunction => do
    let shape ← readShape opener
    return { draft with shapes := draft.shapes ++ [shape] }
  | _ => Reader.fail (.read (.unexpected opener .block))

/-- Whether a token is taken when a block is begun with it; any other token stops the walk before
it. -/
def beginsBlock (t : Token) : Bool :=
  t.kind = .define || t.kind = .declaration || t.kind = .shapeFunction

/-- The draft at the point where the walk ended, where that was, and the fault if there is one. -/
structure Outcome where
  draft : Draft
  cursor : Cursor
  fault : Option Fault

/-- Blocks up to the end of the tokens. Each takes at least its opening token, so as many blocks
as tokens are enough. -/
def walk : Nat → Draft → Cursor → Outcome
  | 0, draft, c => ⟨draft, c, none⟩
  | fuel + 1, draft, c =>
    match c.rest with
    | [] => ⟨draft, c, none⟩
    | t :: rest =>
      let opened : Cursor := if beginsBlock t then ⟨rest, c.position + 1⟩ else c
      match readBlockInto draft t opened with
      | (.ok grown, next) => walk fuel grown next
      | (.error fault, stopped) => ⟨draft, stopped, some fault⟩

def collect (tokens : List Token) : Outcome :=
  let outcome := walk tokens.length {} (Cursor.start tokens)
  match outcome.fault, outcome.draft.root with
  | none, none => { outcome with fault := some (.malformed .missingRoot) }
  | _, _ => outcome

def Outcome.program (outcome : Outcome) : Except Fault Program :=
  match outcome.fault, outcome.draft.root with
  | some fault, _ => .error fault
  | none, none => .error (.malformed .missingRoot)
  | none, some root =>
    .ok ⟨outcome.draft.definitions, root, outcome.draft.grid, outcome.draft.shapes⟩

def build (tokens : List Token) : Except Fault Program :=
  (collect tokens).program

/-- The structure check first, then the walk. -/
def buildChecked (tokens : List Token) : Except Fault Program := do
  (Structure.check tokens).mapError Fault.malformed
  build tokens

end PlotLang.Builder
