import PlotLang.Program.Builder

/-! # The grammar of plot programs

Which lists of tokens are programs, and which program each of them is. A program is a list of
complete blocks, a block is its opening tokens, its fields and an `end`, and a field is a keyword
with its value. Nothing here reads tokens one after another; that the builder accepts exactly this
grammar is proved of its readers.
-/

namespace PlotLang.Grammar

open Token (Kind)

/-! ## Values -/

inductive Field where
  | minimum
  | maximum
  | name
  | color
  | background
  | alpha
  | thickness
  | step
  | function
  | start
  | finish
  | location
  | axes
  | box
  deriving DecidableEq, Repr

abbrev Field.Value : Field → Type
  | .minimum | .maximum | .alpha | .thickness | .step => Binary64
  | .name | .color | .background | .function => String
  | .start | .finish | .location => Point
  | .axes => Definition × Definition
  | .box => Box

/-- How many tokens hold a value, and of which kinds. A value of one token has a hint of its own for
a token that is none. -/
inductive Layout where
  | one (kinds : List Kind) (expected : Expectation)
  | many (kinds : List Kind) (count : Nat)

def Field.layout : Field → Layout
  | .minimum | .maximum | .alpha | .thickness | .step => .one Kind.numbers .number
  | .name | .function => .one [.string] .string
  | .color | .background => .one [.hexColor] .color
  | .start | .finish | .location => .many Kind.numbers 2
  | .axes => .many [.variable] 2
  | .box => .many Kind.numbers 4

/-- Values of allowed kinds with any number of commas before each of them and none after the last;
the second list holds the values alone. -/
inductive Spaced (kinds : List Kind) : List Token → List Token → Prop
  | nil : Spaced kinds [] []
  | value {t : Token} {ts vs : List Token} :
      t.kind ≠ .comma → t.kind ∈ kinds → Spaced kinds ts vs → Spaced kinds (t :: ts) (t :: vs)
  | comma {t v : Token} {ts vs : List Token} :
      t.kind = .comma → Spaced kinds ts (v :: vs) → Spaced kinds (t :: ts) (v :: vs)

def Layout.Holds : Layout → List Token → List Token → Prop
  | .one kinds _, ts, vs => ∃ t, t.kind ∈ kinds ∧ ts = [t] ∧ vs = [t]
  | .many kinds count, ts, vs => Spaced kinds ts vs ∧ vs.length = count

def number? (t : Token) : Option Binary64 := Literal.real? t.text

def definition? (defs : List Definition) (t : Token) : Option Definition :=
  defs.find? fun d => d.identifier == t.text

/-- The value that the tokens of a field stand for after the definitions `defs`. -/
def Field.Means (defs : List Definition) : (f : Field) → List Token → f.Value → Prop
  | .minimum, vs, x | .maximum, vs, x | .thickness, vs, x => vs.map number? = [some x]
  | .alpha, vs, x => vs.map number? = [some x] ∧ Binary64.le 0 x ∧ Binary64.le x 1
  | .step, vs, x => vs.map number? = [some x] ∧ Binary64.lt 0 x
  | .name, vs, text | .function, vs, text => vs.map Token.text = [text]
  | .color, vs, text | .background, vs, text =>
    ∃ t, vs = [t] ∧ (t.text.length = 3 ∨ t.text.length = 6) ∧ text = Text.lowerCase t.text
  | .start, vs, p | .finish, vs, p | .location, vs, p => vs.map number? = [some p.x, some p.y]
  | .axes, vs, ds => vs.map (definition? defs) = [some ds.1, some ds.2]
  | .box, vs, b => vs.map number? = [some b.x, some b.y, some b.width, some b.height]

def Field.Denotes (defs : List Definition) (f : Field) (ts : List Token) (x : f.Value) : Prop :=
  ∃ vs, f.layout.Holds ts vs ∧ f.Means defs vs x

/-! ## Blocks -/

/-- One field of a block with the value it was given there. -/
structure Entry where
  field : Field
  value : field.Value

def Entry.value? (f : Field) (e : Entry) : Option f.Value :=
  if h : e.field = f then some (h ▸ e.value) else none

/-- Of several values for one field the last one counts. -/
def last? (f : Field) (entries : List Entry) : Option f.Value :=
  (entries.filterMap (Entry.value? f)).getLast?

/-- The fields of a block and the `end` that closes it. -/
inductive Body (defs : List Definition) (table : List (String × Field)) :
    List Token → List Entry → Prop
  | close {t : Token} : t.isEnd → Body defs table [t] []
  | field {k : Token} {f : Field} {ts rest : List Token} {x : f.Value} {entries : List Entry} :
      k.kind = .keyword → table.lookup k.text = some f → f.Denotes defs ts x →
      Body defs table rest entries → Body defs table (k :: (ts ++ rest)) (⟨f, x⟩ :: entries)

/-- The forms of blocks, a definition with the name it introduces. -/
inductive Form where
  | definition (name : String)
  | root
  | grid
  | line
  | graph
  | point

/-- The keywords a block of each form allows. Both `axes` and `axis` give the axes. -/
def Form.table : Form → List (String × Field)
  | .definition _ => [("min", .minimum), ("max", .maximum), ("name", .name)]
  | .root =>
    [("box", .box), ("color", .color), ("background", .background), ("axes", .axes),
      ("axis", .axes)]
  | .grid => [("color", .color), ("alpha", .alpha), ("thickness", .thickness), ("step", .step)]
  | .line =>
    [("from", .start), ("to", .finish), ("thickness", .thickness), ("name", .name),
      ("color", .color)]
  | .graph =>
    [("function", .function), ("thickness", .thickness), ("name", .name), ("color", .color)]
  | .point => [("at", .location), ("name", .name), ("color", .color)]

/-- The tokens that open a block: `opener` and, after a definition's, the name. -/
inductive Form.Opens : Form → Token → List Token → Prop
  | definition {marker name : Token} : marker.kind = .define → name.kind = .newIdentifier →
      Opens (.definition name.text) marker [marker, name]
  | root {opener : Token} : opener.kind = .declaration → opener.text = "root" →
      Opens .root opener [opener]
  | grid {opener : Token} : opener.kind = .declaration → opener.text = "grid" →
      Opens .grid opener [opener]
  | line {opener : Token} : opener.kind = .shapeFunction → opener.text = "line" →
      Opens .line opener [opener]
  | graph {opener : Token} : opener.kind = .shapeFunction → opener.text = "graph" →
      Opens .graph opener [opener]
  | point {opener : Token} : opener.kind = .shapeFunction → opener.text = "point" →
      Opens .point opener [opener]

/-- What a block adds to a program. -/
inductive Item where
  | definition (d : Definition)
  | root (r : Root)
  | grid (g : Grid)
  | shape (s : Shape)

/-- What the entries of a block amount to; nothing if a mandatory field is not among them. -/
def Form.item? (entries : List Entry) : Form → Option Item
  | .definition name => do
    let maximum ← last? .maximum entries
    return .definition
      ⟨name, last? .name entries, (last? .minimum entries).getD 0, maximum⟩
  | .root => do
    let box ← last? .box entries
    let axes ← last? .axes entries
    return .root ⟨box, (last? .color entries).getD defaultStroke,
      (last? .background entries).getD defaultBackground, axes.1, axes.2⟩
  | .grid => some <| .grid
    ⟨(last? .color entries).getD Grid.default.color, (last? .alpha entries).getD Grid.default.alpha,
      (last? .thickness entries).getD Grid.default.thickness,
      (last? .step entries).getD Grid.default.step⟩
  | .line => do
    let start ← last? .start entries
    let finish ← last? .finish entries
    return .shape <|
      .line start finish (last? .name entries) (last? .color entries) (last? .thickness entries)
  | .graph => do
    let function ← last? .function entries
    return .shape <|
      .graph function (last? .name entries) (last? .color entries) (last? .thickness entries)
  | .point => do
    let location ← last? .location entries
    return .shape <| .point location (last? .name entries) (last? .color entries)

def Block (defs : List Definition) (ts : List Token) (item : Item) : Prop :=
  ∃ form opener opening body entries, ts = opening ++ body ∧ Form.Opens form opener opening ∧
    Body defs form.table body entries ∧ form.item? entries = some item

/-! ## Programs -/

namespace Item

def definition? : Item → Option Definition
  | definition d => some d
  | _ => none

def root? : Item → Option Root
  | root r => some r
  | _ => none

def grid? : Item → Option Grid
  | grid g => some g
  | _ => none

def shape? : Item → Option Shape
  | shape s => some s
  | _ => none

end Item

/-- Complete blocks one after another. A block may use the definitions completed before it. -/
inductive Blocks : List Definition → List Token → List Item → Prop
  | nil {defs : List Definition} : Blocks defs [] []
  | cons {defs : List Definition} {ts rest : List Token} {item : Item} {items : List Item} :
      Block defs ts item → Blocks (defs ++ item.definition?.toList) rest items →
      Blocks defs (ts ++ rest) (item :: items)

/-- A program lists its definitions and shapes in the order of their blocks, has the grid of the one
grid block if there is one, and the root of the last root block. -/
structure Amounts (items : List Item) (p : Program) : Prop where
  definitions : items.filterMap Item.definition? = p.definitions
  root : (items.filterMap Item.root?).getLast? = some p.root
  grid : items.filterMap Item.grid? = p.grid.toList
  shapes : items.filterMap Item.shape? = p.shapes

def Denotes (tokens : List Token) (p : Program) : Prop :=
  ∃ items, Blocks [] tokens items ∧ Amounts items p

end PlotLang.Grammar
