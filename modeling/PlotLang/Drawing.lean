import PlotLang.Drawing.Curve
import PlotLang.Event
import PlotLang.Markup
import PlotLang.Program

/-! # Drawings

A program is drawn as a document: the background, the grid if there is one, two tick lines and the
shapes in their order. The canvas is a little larger than the box, and its vertical axis points
down.
-/

namespace PlotLang

/-- Coordinates are written with at most ten places. -/
structure Options where
  precision : Nat := 3
  pointRadius : Binary64 := 3
  xmlDeclaration : Bool := true
  precision_le : precision ≤ 10 := by decide

namespace Options

def precisionText : String := "precision must be between 0 and 10"

def make? (precision : Int) (pointRadius : Binary64) (xmlDeclaration : Bool) : Option Options :=
  if h : 0 ≤ precision ∧ precision ≤ 10 then
    some ⟨precision.toNat, pointRadius, xmlDeclaration, by omega⟩
  else none

end Options

namespace Drawing

open Markup (Attribute Element)

/-- Room beyond the box for labels. -/
def padding : Binary64 := 10

/-- The place of a point on a canvas of a given height. -/
def place (height : Binary64) (p : Point) : Point := ⟨p.x + padding, height - p.y⟩

def number (name : String) (x : Binary64) (places : Nat) : Attribute :=
  ⟨name, Decimal.fixed x places⟩

def colorAttribute (name color : String) : Attribute := .plain name ("#" ++ color)

structure Canvas where
  width : Binary64
  height : Binary64
  places : Nat

namespace Canvas

def ofBox (box : Box) (options : Options) : Canvas :=
  ⟨box.width + padding, box.height + padding, options.precision⟩

def widthText (c : Canvas) : List Char := Decimal.fixed c.width c.places

def heightText (c : Canvas) : List Char := Decimal.fixed c.height c.places

/-- The attributes of a rectangle over the whole canvas. -/
def area (c : Canvas) : List Attribute :=
  [.plain "x" "0", .plain "y" "0", ⟨"width", c.widthText⟩, ⟨"height", c.heightText⟩]

def background (c : Canvas) (color : String) : Element :=
  .empty "rect" (c.area ++ [colorAttribute "fill" color])

/-- A tile as large as the step, drawn along two of its sides. -/
def tile (grid : Grid) (places : Nat) : Element :=
  let step := Decimal.fixed grid.step places
  let path := "M ".toList ++ step ++ " 0 L 0 0 0 ".toList ++ step
  .parent "pattern"
    [.plain "id" "grid", ⟨"width", step⟩, ⟨"height", step⟩, .plain "patternUnits" "userSpaceOnUse"]
    [.empty "path"
      [⟨"d", path⟩, .plain "fill" "none", colorAttribute "stroke" grid.color,
        number "stroke-width" grid.thickness places, number "stroke-opacity" grid.alpha places]]

def grid (c : Canvas) (g : Grid) : List Element :=
  [.parent "defs" [] [tile g c.places], .empty "rect" (c.area ++ [.plain "fill" "url(#grid)"])]

def tick (c : Canvas) (color : String) (x y : Binary64) : Element :=
  .empty "line"
    [.plain "x1" "0", .plain "y1" "0", number "x2" x c.places, number "y2" y c.places,
      colorAttribute "stroke" color, .plain "stroke-width" "1"]

/-- The ticks start in the corner of the canvas, which is not where the box starts. -/
def ticks (c : Canvas) (root : Root) : List Element :=
  [c.tick root.color root.xAxis.maximum padding, c.tick root.color padding root.yAxis.maximum]

def nameAttribute (name : Option String) : List Attribute :=
  name.toList.map (Attribute.text "data-name")

def thicknessAttribute (c : Canvas) (thickness : Option Binary64) : List Attribute :=
  thickness.toList.map fun t => number "stroke-width" t c.places

/-- A color that is absent or empty is the default one. -/
def colorOrDefault (color : Option String) : String :=
  match color with
  | some color => if color.isEmpty then defaultStroke else color
  | none => defaultStroke

def line (c : Canvas) (start finish : Point) (name color : Option String)
    (thickness : Option Binary64) : Element :=
  let a := place c.height start
  let b := place c.height finish
  .empty "line" <|
    [number "x1" a.x c.places, number "y1" a.y c.places, number "x2" b.x c.places,
      number "y2" b.y c.places] ++
    color.toList.map (colorAttribute "stroke") ++ nameAttribute name ++
    c.thicknessAttribute thickness

def point (c : Canvas) (radius : Binary64) (location : Point) (name color : Option String) :
    Element :=
  let center := place c.height location
  let color := colorOrDefault color
  .empty "circle" <|
    [number "cx" center.x c.places, number "cy" center.y c.places, number "r" radius c.places,
      colorAttribute "stroke" color, colorAttribute "fill" color] ++ nameAttribute name

def graph (c : Canvas) (vertices : List Curve.Vertex) (name color : Option String)
    (thickness : Option Binary64) : Element :=
  .empty "path" <|
    [⟨"d", Curve.path c.height c.places vertices⟩, .plain "fill" "none",
      colorAttribute "stroke" (colorOrDefault color)] ++
    nameAttribute name ++ c.thicknessAttribute thickness

end Canvas

/-- What has happened so far, and a result or the fault that ended it. -/
abbrev Logged (α : Type) : Type := List Event × Except Curve.Fault α

def shape (library : Expression.Library) (c : Canvas) (options : Options) (boxWidth : Binary64) :
    Shape → Logged Element
  | .line start finish name color thickness => ([], .ok (c.line start finish name color thickness))
  | .point location name color => ([], .ok (c.point options.pointRadius location name color))
  | .graph function name color thickness =>
    match Curve.values library function boxWidth with
    | .error fault => ([], .error fault)
    | .ok values =>
      let vertices := Curve.ofValues values
      ([.sampled function vertices.length (values.length - vertices.length)],
        .ok (c.graph vertices name color thickness))

/-- The shapes in order, up to the first that cannot be drawn. -/
def shapes (library : Expression.Library) (c : Canvas) (options : Options) (boxWidth : Binary64) :
    List Shape → Logged (List Element)
  | [] => ([], .ok [])
  | s :: rest =>
    match shape library c options boxWidth s with
    | (events, .error fault) => (events, .error fault)
    | (events, .ok element) =>
      let (more, elements) := shapes library c options boxWidth rest
      (events ++ more, elements.map (element :: ·))

def namespaceName : String := "http://www.w3.org/2000/svg"

def document (library : Expression.Library) (program : Program) (options : Options) :
    Logged Markup.Document :=
  let root := program.root
  let c := Canvas.ofBox root.box options
  let (events, elements) := shapes library c options root.box.width program.shapes
  let viewBox := "0 0 ".toList ++ c.widthText ++ ' ' :: c.heightText
  (events, elements.map fun elements =>
    { declared := options.xmlDeclaration
      root := .parent "svg"
        [.plain "xmlns" namespaceName, .plain "version" "1.1", ⟨"width", c.widthText⟩,
          ⟨"height", c.heightText⟩, ⟨"viewBox", viewBox⟩]
        (c.background root.background :: ((program.grid.toList.flatMap c.grid) ++
          c.ticks root ++ elements)) })

/-- The text of the document a program is drawn as. -/
def render (library : Expression.Library) (program : Program) (options : Options) :
    Logged String :=
  let (events, drawn) := document library program options
  (events, drawn.map fun d => String.ofList d.text)

end Drawing

end PlotLang
