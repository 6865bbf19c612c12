import PlotLang.Compilation
import PlotLang.Summary

/-! # Strict building

The builder once more, with nothing taken for granted. A token is taken only where one is left,
values are unpacked only if they are as many as expected, the fields of a block are gathered under
their keys and looked up there, and a loop may run out of rounds. An operation used outside its
conditions ends the run in a lapse, which no diagnostic describes. That none ever does is a theorem
about this builder and, as the two agree, about the one that runs.
-/

namespace PlotLang.Strict

open Builder (Draft Fault)
open Token (Kind)

inductive Lapse where
  | pastEnd
  | unreadable (text : String)
  | miscounted (expected given : Nat)
  | absentKey (key : String)
  | unexpectedKey (key : String)
  | mistyped (key : String)
  | unfinished
  deriving DecidableEq, Repr

/-- Why a run has ended without a result: a fault that a diagnostic describes, or a lapse. -/
inductive Stop (ε : Type) where
  | fault (fault : ε)
  | lapse (lapse : Lapse)
  deriving DecidableEq, Repr

def Stop.map (f : ε → ε') : Stop ε → Stop ε'
  | fault e => fault (f e)
  | lapse l => lapse l

abbrev Attempt (α : Type) : Type := StateT Cursor (Except (Stop Fault)) α

namespace Attempt

def fault (cause : Fault) : Attempt α := fun _ => .error (.fault cause)

def lapse (l : Lapse) : Attempt α := fun _ => .error (.lapse l)

def peek : Attempt (Option Token) := fun c => .ok (c.peek?, c)

def advance : Attempt Token := fun c =>
  match c.next? with
  | some taken => .ok taken
  | none => .error (.lapse .pastEnd)

def require (condition : Bool) (cause : Fault) : Attempt Unit :=
  if condition then pure () else fault cause

/-- Rounds for a loop that takes a token in each of them but the last. -/
def rounds : Attempt Nat := fun c => .ok (c.rest.length + 1, c)

end Attempt

open Attempt

/-! ## Values, read after their keyword -/

def value (keyword : Token) (kinds : List Kind) (expected : Expectation) : Attempt Token := do
  match ← peek with
  | none => fault (.read (.missingValue keyword))
  | some t => if t.kind ∈ kinds then advance else fault (.read (.unexpected t expected))

def numeral (t : Token) : Attempt Binary64 :=
  match Literal.real? t.text with
  | some x => pure x
  | none => lapse (.unreadable t.text)

def number (keyword : Token) : Attempt Binary64 := do
  numeral (← value keyword Kind.numbers .number)

def string (keyword : Token) : Attempt String := do
  let t ← value keyword [.string] .string
  return t.text

def color (keyword : Token) : Attempt String := do
  let t ← value keyword [.hexColor] .color
  require (t.text.length = 3 || t.text.length = 6) (.invalidColor keyword t)
  return Text.lowerCase t.text

/-- Values of the allowed kinds until there are `count` of them, with commas passed over. -/
def gather (keyword : Token) (kinds : List Kind) (count : Nat) :
    Nat → List Token → Attempt (List Token)
  | 0, _ => lapse .unfinished
  | rounds + 1, values =>
    if values.length < count then do
      match ← peek with
      | none => fault (.read (.missingValues keyword count))
      | some t =>
        if t.kind = .comma then do
          let _ ← advance
          gather keyword kinds count rounds values
        else if t.kind ∈ kinds then do
          let taken ← advance
          gather keyword kinds count rounds (values ++ [taken])
        else fault (.read (.unexpected t (.kinds kinds)))
    else pure values

def tuple (keyword : Token) (kinds : List Kind) (count : Nat) : Attempt (List Token) := do
  gather keyword kinds count (← rounds) []

def two : List Token → Attempt (Token × Token)
  | [x, y] => pure (x, y)
  | values => lapse (.miscounted 2 values.length)

def four : List Token → Attempt (Token × Token × Token × Token)
  | [x, y, width, height] => pure (x, y, width, height)
  | values => lapse (.miscounted 4 values.length)

def pair (keyword : Token) : Attempt Point := do
  let (x, y) ← two (← tuple keyword Kind.numbers 2)
  return ⟨← numeral x, ← numeral y⟩

def box (keyword : Token) : Attempt Box := do
  let (x, y, width, height) ← four (← tuple keyword Kind.numbers 4)
  return ⟨← numeral x, ← numeral y, ← numeral width, ← numeral height⟩

def lookup (definitions : List Definition) (axis : Token) : Attempt Definition :=
  match definitions.find? fun d => d.identifier == axis.text with
  | some d => pure d
  | none => fault (.undefinedVariable axis)

def axes (definitions : List Definition) (keyword : Token) : Attempt (Definition × Definition) := do
  let (first, second) ← two (← tuple keyword [.variable] 2)
  return (← lookup definitions first, ← lookup definitions second)

def alpha (keyword : Token) : Attempt Binary64 := do
  let x ← number keyword
  require (Binary64.le 0 x && x.le 1) (.alphaOutOfRange keyword)
  return x

def step (keyword : Token) : Attempt Binary64 := do
  let x ← number keyword
  require (Binary64.lt 0 x) (.stepNotPositive keyword)
  return x

/-! ## Values under their keys -/

inductive Value where
  | number (x : Binary64)
  | text (text : String)
  | point (p : Point)
  | box (b : Box)
  | axes (ds : Definition × Definition)

/-- A type whose values are gathered together with those of other types. -/
structure Slot (α : Type) where
  store : α → Value
  load? : Value → Option α
  load?_store : ∀ a, load? (store a) = some a

namespace Slot

def number : Slot Binary64 where
  store := .number
  load?
    | .number x => some x
    | _ => none
  load?_store _ := rfl

def text : Slot String where
  store := .text
  load?
    | .text text => some text
    | _ => none
  load?_store _ := rfl

def point : Slot Point where
  store := .point
  load?
    | .point p => some p
    | _ => none
  load?_store _ := rfl

def box : Slot Box where
  store := .box
  load?
    | .box b => some b
    | _ => none
  load?_store _ := rfl

def axes : Slot (Definition × Definition) where
  store := .axes
  load?
    | .axes ds => some ds
    | _ => none
  load?_store _ := rfl

end Slot

/-- The value gathered last under a key comes first. -/
abbrev Values : Type := List (String × Value)

def load (slot : Slot α) (key : String) (v : Value) : Attempt α :=
  match slot.load? v with
  | some a => pure a
  | none => lapse (.mistyped key)

def demand (slot : Slot α) (key : String) (values : Values) : Attempt α :=
  match values.lookup key with
  | some v => load slot key v
  | none => lapse (.absentKey key)

def find? (slot : Slot α) (key : String) (values : Values) : Attempt (Option α) :=
  match values.lookup key with
  | some v => do return some (← load slot key v)
  | none => pure none

/-- A mandatory value, demanded only once it is known to be there. -/
def required (slot : Slot α) (key : String) (values : Values) (cause : Fault) : Attempt α := do
  require (values.lookup key).isSome cause
  demand slot key values

/-! ## Fields of a block -/

abbrev Readers : Type := List (String × (Token → Attempt Value))

def Readers.keywords (readers : Readers) : List String := readers.map (·.1)

/-- `axes` and `axis` are one field. -/
def keyOf (keyword : String) : String := if keyword = "axes" then "axis" else keyword

def readFields (opener : Token) (readers : Readers) : Nat → Values → Attempt Values
  | 0, _ => lapse .unfinished
  | rounds + 1, values => do
    match ← peek with
    | none => fault (.malformed (.unclosed opener))
    | some t =>
      if t.isEnd then do
        let _ ← advance
        return values
      else if t.kind = .keyword ∧ t.text ∈ readers.keywords then do
        let keyword ← advance
        match readers.lookup keyword.text with
        | some reader =>
          let v ← reader keyword
          readFields opener readers rounds ((keyOf keyword.text, v) :: values)
        | none => lapse (.absentKey keyword.text)
      else fault (.read (.unexpected t (.field readers.keywords)))

def readBlock (opener : Token) (readers : Readers) : Attempt Values := do
  readFields opener readers (← rounds) []

def reader (keyword : String) (slot : Slot α) (read : Token → Attempt α) :
    String × (Token → Attempt Value) :=
  (keyword, fun k => do return slot.store (← read k))

def definitionReaders : Readers :=
  [reader "min" .number number, reader "max" .number number, reader "name" .text string]

def rootReaders (definitions : List Definition) : Readers :=
  [reader "box" .box box, reader "color" .text color, reader "background" .text color,
    reader "axes" .axes (axes definitions), reader "axis" .axes (axes definitions)]

def gridReaders : Readers :=
  [reader "color" .text color, reader "alpha" .number alpha, reader "thickness" .number number,
    reader "step" .number step]

def lineReaders : Readers :=
  [reader "from" .point pair, reader "to" .point pair, reader "thickness" .number number,
    reader "name" .text string, reader "color" .text color]

def graphReaders : Readers :=
  [reader "function" .text string, reader "thickness" .number number, reader "name" .text string,
    reader "color" .text color]

def pointReaders : Readers :=
  [reader "at" .point pair, reader "name" .text string, reader "color" .text color]

/-! ## Blocks -/

def newName (marker : Token) : Attempt Token := do
  match ← peek with
  | none => fault (.missingName marker)
  | some t => if t.kind = .newIdentifier then advance else fault (.missingName t)

def definition (marker : Token) : Attempt Definition := do
  let name ← newName marker
  let values ← readBlock marker definitionReaders
  let maximum ← required .number "max" values <| .missingField "max"
    ("Need to specify a maximum value for the variable '" ++ name.text ++ "'") marker
  let title ← find? .text "name" values
  let minimum ← find? .number "min" values
  return ⟨name.text, title, minimum.getD 0, maximum⟩

def root (definitions : List Definition) (opener : Token) : Attempt Root := do
  let values ← readBlock opener (rootReaders definitions)
  let area ← required .box "box" values <|
    .missingField "box" "Need to specify a box for the root" opener
  let (xAxis, yAxis) ← required .axes "axis" values <|
    .missingField "axis" "Need to specify axes for the root" opener
  let stroke ← find? .text "color" values
  let background ← find? .text "background" values
  return ⟨area, stroke.getD defaultStroke, background.getD defaultBackground, xAxis, yAxis⟩

def gridKeys : List String := ["color", "alpha", "thickness", "step"]

/-- A grid from its values by their keys, all of which must be those of a grid. -/
def gridOf (values : Values) : Attempt Grid := do
  match values.find? fun entry => entry.1 ∉ gridKeys with
  | some (key, _) => lapse (.unexpectedKey key)
  | none =>
    let stroke ← find? .text "color" values
    let opacity ← find? .number "alpha" values
    let thickness ← find? .number "thickness" values
    let distance ← find? .number "step" values
    return ⟨stroke.getD Grid.default.color, opacity.getD Grid.default.alpha,
      thickness.getD Grid.default.thickness, distance.getD Grid.default.step⟩

def grid (present : Bool) (opener : Token) : Attempt Grid := do
  require (!present) (.repeatedGrid opener)
  gridOf (← readBlock opener gridReaders)

def demanded (slot : Slot α) (key : String) (values : Values) (opener : Token) : Attempt α :=
  required slot key values <| .missingField key
    ("Need to specify '" ++ key ++ "' for '@" ++ opener.text ++ "'") opener

def line (opener : Token) : Attempt Shape := do
  let values ← readBlock opener lineReaders
  let start ← demanded .point "from" values opener
  let finish ← demanded .point "to" values opener
  return .line start finish (← find? .text "name" values) (← find? .text "color" values)
    (← find? .number "thickness" values)

def graph (opener : Token) : Attempt Shape := do
  let values ← readBlock opener graphReaders
  let function ← demanded .text "function" values opener
  return .graph function (← find? .text "name" values) (← find? .text "color" values)
    (← find? .number "thickness" values)

def point (opener : Token) : Attempt Shape := do
  let values ← readBlock opener pointReaders
  let location ← demanded .point "at" values opener
  return .point location (← find? .text "name" values) (← find? .text "color" values)

def declaration (draft : Draft) (opener : Token) : Attempt Draft :=
  if opener.text = "root" then do
    return { draft with root := some (← root draft.definitions opener) }
  else if opener.text = "grid" then do
    return { draft with grid := some (← grid draft.grid.isSome opener) }
  else fault (.unknownDeclaration opener)

def shape (opener : Token) : Attempt Shape :=
  if opener.text = "line" then line opener
  else if opener.text = "graph" then graph opener
  else if opener.text = "point" then point opener
  else fault (.unknownShape opener)

/-- The block that the next token begins; any other token is left where it is. -/
def block (draft : Draft) (t : Token) : Attempt Draft :=
  match t.kind with
  | .define => do
    let d ← definition (← advance)
    return { draft with definitions := draft.definitions ++ [d] }
  | .declaration => do declaration draft (← advance)
  | .shapeFunction => do
    let s ← shape (← advance)
    return { draft with shapes := draft.shapes ++ [s] }
  | _ => fault (.read (.unexpected t .block))

def blocks : Nat → Draft → Attempt Draft
  | 0, _ => lapse .unfinished
  | rounds + 1, draft => fun c =>
    if c.atEnd then .ok (draft, c)
    else match c.peek? with
      | some t => (block draft t >>= blocks rounds) c
      | none => .error (.lapse .pastEnd)

/-! ## Programs and their summaries -/

def build (tokens : List Token) : Except (Stop Fault) Program := do
  let (draft, _) ← (rounds >>= fun n => blocks n {}) (Cursor.start tokens)
  match draft.root with
  | some root => .ok ⟨draft.definitions, root, draft.grid, draft.shapes⟩
  | none => .error (.fault (.malformed .missingRoot))

def buildChecked (tokens : List Token) : Except (Stop Fault) Program :=
  match Structure.check tokens with
  | .ok _ => build tokens
  | .error error => .error (.fault (.malformed error))

/-- The tokens of a source, all of which has been read. -/
def tokens (source : String) : Except (Stop Failure) (List Token) :=
  match Lexer.scan source with
  | (_, some error) => .error (.fault (.scanning error))
  | (final, none) =>
    if final.rest.isEmpty then .ok final.tokens.toList else .error (.lapse .unfinished)

def summary (source : String) : Except (Stop Failure) (List String) := do
  let ts ← tokens source
  let p ← (buildChecked ts).mapError (Stop.map Failure.building)
  return Summary.lines p

end PlotLang.Strict
