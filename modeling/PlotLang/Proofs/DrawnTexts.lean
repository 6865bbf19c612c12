import Mathlib.Data.List.Forall2
import PlotLang.Drawing
import PlotLang.Proofs.FixedPoint
import PlotLang.Proofs.Invariants
import PlotLang.Proofs.Tags

/-! # The texts of a drawing

Numbers, paths, colors and what a drawing itself puts between quotes are printable ASCII without a
quote or an angle bracket that opens a tag. The names of shapes are the only texts with other
characters, each in one attribute of the tag of its shape.
-/

namespace PlotLang

open Markup (Attribute Element IsName IsValue Tag)

/-- A character of the values of a drawing, names apart. -/
def Markup.isDrawn (c : Char) : Bool := ' ' ≤ c && c ≤ '~' && Reader.isValueChar c

def Markup.IsDrawn (cs : List Char) : Prop := ∀ c ∈ cs, isDrawn c

open Markup (IsDrawn isDrawn)

instance (cs : List Char) : Decidable (IsDrawn cs) :=
  decidable_of_iff (cs.all isDrawn) List.all_eq_true

namespace Markup.IsDrawn

variable {c : Char} {cs ds : List Char}

theorem append (hFirst : IsDrawn cs) (hSecond : IsDrawn ds) : IsDrawn (cs ++ ds) :=
  List.forall_mem_append.mpr ⟨hFirst, hSecond⟩

theorem cons (hFirst : isDrawn c) (hRest : IsDrawn cs) : IsDrawn (c :: cs) :=
  List.forall_mem_cons.mpr ⟨hFirst, hRest⟩

theorem mono (h : IsDrawn cs) (hSub : ds ⊆ cs) : IsDrawn ds := fun c hMem => h c (hSub hMem)

theorem isValue (h : IsDrawn cs) : IsValue cs := fun c hMem =>
  (Bool.and_eq_true_iff.mp (h c hMem)).2

end Markup.IsDrawn

/-! ## Texts of numbers, paths and colors -/

namespace Decimal

theorem isDrawn_withSign {cs : List Char} (negative : Bool) (h : IsDrawn cs) :
    IsDrawn (withSign negative cs) := by
  cases negative with
  | false => exact h
  | true => exact .cons rfl h

theorem isDrawn_fixed (x : Binary64) (places : Nat) : IsDrawn (fixed x places) := by
  cases x with
  | nan =>
    rw [fixed]
    decide
  | infinite negative => exact isDrawn_withSign negative (by decide)
  | finite negative units fits =>
    have hNumeral : IsDrawn (numeral (roundPlaces units places) places) :=
      Literal.forall_numberParts (isNumberPart_numeral _ places) (by decide)
    exact isDrawn_withSign _ hNumeral

end Decimal

namespace Curve

open Decimal (isDrawn_fixed)

theorem Vertex.isDrawn_command (height : Binary64) (places : Nat) (v : Vertex) :
    IsDrawn (v.command height places) := by
  have hRest : IsDrawn (' ' :: Decimal.fixed (.ofNat v.x) places ++
      ' ' :: Decimal.fixed (height - v.y) places) :=
    (Markup.IsDrawn.cons rfl (isDrawn_fixed _ _)).append (.cons rfl (isDrawn_fixed _ _))
  unfold Vertex.command
  split
  · exact .cons rfl hRest
  · exact .cons rfl hRest

theorem isDrawn_spaced {css : List (List Char)} (h : ∀ cs ∈ css, IsDrawn cs) :
    IsDrawn (spaced css) := by
  induction css with
  | nil => exact List.forall_mem_nil _
  | cons cs css ih =>
    obtain ⟨hFirst, hRest⟩ := List.forall_mem_cons.mp h
    cases css with
    | nil => exact hFirst
    | cons ds css => exact hFirst.append (.cons rfl (ih hRest))

theorem isDrawn_path (height : Binary64) (places : Nat) (vs : List Vertex) :
    IsDrawn (path height places vs) := by
  refine isDrawn_spaced fun cs hMem => ?_
  obtain ⟨v, -, rfl⟩ := List.mem_map.mp hMem
  exact v.isDrawn_command height places

end Curve

theorem IsColor.isDrawn {color : String} (h : IsColor color) : IsDrawn ("#" ++ color).toList := by
  have hDigits : IsDrawn colorDigits := by decide
  rw [String.toList_append]
  exact Markup.IsDrawn.append (by decide) (hDigits.mono h.2)

theorem Program.forall_color? {p : Program} (h : ∀ color ∈ p.colors, IsColor color) :
    ∀ s ∈ p.shapes, ∀ color ∈ s.color?, IsColor color := fun s hS color hColor =>
  h color (List.mem_append_right _ (List.mem_filterMap.mpr ⟨s, hS, hColor⟩))

/-! ## Elements -/

/-- An attribute the drawing writes itself. -/
structure Markup.Attribute.Drawn (a : Attribute) : Prop where
  name : IsName a.name
  value : IsDrawn a.value

structure Markup.Tag.Drawn (t : Tag) : Prop where
  name : IsName t.name
  attributes : ∀ a ∈ t.attributes, a.Drawn

theorem Markup.Attribute.Drawn.plain {a : Attribute} (h : a.Drawn) : a.Plain :=
  ⟨h.name, h.value.isValue⟩

theorem Markup.Tag.Drawn.plain {t : Tag} (h : t.Drawn) : t.Plain :=
  ⟨h.name, fun a hMem => (h.attributes a hMem).plain⟩

theorem Markup.Element.forall_tagsAll {P : Tag → Prop} {es : List Element}
    (h : ∀ e ∈ es, ∀ t ∈ e.tags, P t) : ∀ t ∈ Element.tagsAll es, P t := by
  induction es with
  | nil => exact List.forall_mem_nil _
  | cons e es ih =>
    obtain ⟨hFirst, hRest⟩ := List.forall_mem_cons.mp h
    exact List.forall_mem_append.mpr ⟨hFirst, ih hRest⟩

theorem Markup.Element.forall_tags_parent {P : Tag → Prop} {name : String}
    {attributes : List Attribute} {es : List Element} (hOpening : P ⟨.opening, name, attributes⟩)
    (hClosing : P ⟨.closing, name, []⟩) (hChildren : ∀ e ∈ es, ∀ t ∈ e.tags, P t) :
    ∀ t ∈ (Element.parent name attributes es).tags, P t :=
  List.forall_mem_cons.mpr ⟨hOpening, List.forall_mem_append.mpr
    ⟨forall_tagsAll hChildren, List.forall_mem_singleton.mpr hClosing⟩⟩

namespace Drawing

/-- Every tag of an element is read back as it is. -/
def Plain (e : Element) : Prop := ∀ t ∈ e.tags, t.Plain

/-- An element without the name of a shape. -/
def Drawn (e : Element) : Prop := ∀ t ∈ e.tags, t.Drawn

variable {name color : String} {attributes : List Attribute} {e : Element} {es : List Element}
  {s : Shape} {ss : List Shape} {p : Program}

theorem Drawn.plain (h : Drawn e) : Plain e := fun t hMem => (h t hMem).plain

theorem attribute_drawn {value : List Char} (hName : IsName name) (hValue : IsDrawn value) :
    Attribute.Drawn ⟨name, value⟩ :=
  ⟨hName, hValue⟩

theorem number_drawn (x : Binary64) (places : Nat) (hName : IsName name) :
    (number name x places).Drawn :=
  ⟨hName, Decimal.isDrawn_fixed x places⟩

theorem color_drawn (hName : IsName name) (hColor : IsColor color) :
    (colorAttribute name color).Drawn :=
  ⟨hName, hColor.isDrawn⟩

namespace Canvas

theorem nameAttribute_plain (name : Option String) : ∀ a ∈ nameAttribute name, a.Plain := by
  intro a hMem
  obtain ⟨text, -, rfl⟩ := List.mem_map.mp hMem
  have hName : IsName "data-name" := by decide
  exact ⟨hName, Markup.isValue_escape text.toList⟩

theorem isColor_colorOrDefault {color : Option String} (hColor : ∀ text ∈ color, IsColor text) :
    IsColor (colorOrDefault color) := by
  unfold colorOrDefault
  split
  · split
    · exact Grammar.isColor_defaultStroke
    · exact hColor _ rfl
  · exact Grammar.isColor_defaultStroke

end Canvas

/-! ## The document -/

/-- What is drawn before the shapes. -/
def frame (p : Program) (options : Options) : List Element :=
  let c := Canvas.ofBox p.root.box options
  c.background p.root.background :: (p.grid.toList.flatMap c.grid ++ c.ticks p.root)

/-- The attributes of the element around a drawing. -/
def rootAttributes (p : Program) (options : Options) : List Attribute :=
  let c := Canvas.ofBox p.root.box options
  [.plain "xmlns" namespaceName, .plain "version" "1.1", ⟨"width", c.widthText⟩,
    ⟨"height", c.heightText⟩, ⟨"viewBox", "0 0 ".toList ++ c.widthText ++ ' ' :: c.heightText⟩]

/-- The texts a drawing has in itself. -/
def literals : List String :=
  ["0", "1", "1.1", "none", "grid", "userSpaceOnUse", "url(#grid)", "M ", " 0 L 0 0 0 ", "0 0 ",
    " ", namespaceName]

def frameNumbers (p : Program) : List Binary64 :=
  [p.root.box.width + padding, p.root.box.height + padding, p.root.xAxis.maximum,
    p.root.yAxis.maximum, padding] ++ p.grid.toList.flatMap Grid.numbers

def frameColors (p : Program) : List String :=
  [p.root.color, p.root.background] ++ p.grid.toList.map Grid.color

/-- A property of every character that is drawn before the shapes. -/
structure Covers (q : Char → Prop) (p : Program) (options : Options) : Prop where
  literals : ∀ text ∈ literals, ∀ c ∈ text.toList, q c
  numbers : ∀ x ∈ frameNumbers p, ∀ c ∈ Decimal.fixed x options.precision, q c
  colors : ∀ color ∈ frameColors p, ∀ c ∈ ("#" ++ color).toList, q c

/-- Attributes with values of characters with a property. -/
def AttributesWithin (q : Char → Prop) (attributes : List Attribute) : Prop :=
  ∀ a ∈ attributes, IsName a.name ∧ ∀ c ∈ a.value, q c

def Within (q : Char → Prop) (e : Element) : Prop :=
  ∀ t ∈ e.tags, IsName t.name ∧ AttributesWithin q t.attributes

section Frame

variable {q : Char → Prop} {options : Options} {g : Grid}

theorem attributesWithin_cons {a : Attribute} : AttributesWithin q (a :: attributes) ↔
    (IsName a.name ∧ ∀ c ∈ a.value, q c) ∧ AttributesWithin q attributes :=
  List.forall_mem_cons

theorem attributesWithin_nil : AttributesWithin q [] := List.forall_mem_nil _

theorem within_empty (hName : IsName name) (h : AttributesWithin q attributes) :
    Within q (.empty name attributes) :=
  List.forall_mem_singleton.mpr ⟨hName, h⟩

theorem within_parent (hName : IsName name) (h : AttributesWithin q attributes)
    (hChildren : ∀ e ∈ es, Within q e) : Within q (.parent name attributes es) :=
  Element.forall_tags_parent ⟨hName, h⟩ ⟨hName, attributesWithin_nil⟩ hChildren

namespace Covers

variable (h : Covers q p options)
include h

theorem sides : (∀ c ∈ (Canvas.ofBox p.root.box options).widthText, q c) ∧
    ∀ c ∈ (Canvas.ofBox p.root.box options).heightText, q c :=
  ⟨h.numbers (p.root.box.width + padding) (by simp [frameNumbers]),
    h.numbers (p.root.box.height + padding) (by simp [frameNumbers])⟩

theorem number {x : Binary64} (hX : x ∈ frameNumbers p) (hName : IsName name) :
    IsName (Drawing.number name x options.precision).name ∧
      ∀ c ∈ (Drawing.number name x options.precision).value, q c :=
  ⟨hName, h.numbers x hX⟩

theorem colored (hColor : color ∈ frameColors p) (hName : IsName name) :
    IsName (colorAttribute name color).name ∧ ∀ c ∈ (colorAttribute name color).value, q c :=
  ⟨hName, h.colors color hColor⟩

theorem area : AttributesWithin q (Canvas.ofBox p.root.box options).area := by
  have hZero := h.literals "0" (by decide)
  simp only [Canvas.area, attributesWithin_cons]
  exact ⟨⟨by decide, hZero⟩, ⟨by decide, hZero⟩, ⟨by decide, h.sides.1⟩, ⟨by decide, h.sides.2⟩,
    attributesWithin_nil⟩

theorem background :
    Within q ((Canvas.ofBox p.root.box options).background p.root.background) := by
  refine within_empty (by decide) (List.forall_mem_append.mpr ⟨h.area, ?_⟩)
  exact List.forall_mem_singleton.mpr (h.colored (by simp [frameColors]) (by decide))

theorem tile (hGrid : g ∈ p.grid) : Within q (Canvas.tile g options.precision) := by
  have hNumbers : ∀ x ∈ g.numbers, x ∈ frameNumbers p := fun x hX =>
    List.mem_append_right _ (List.mem_flatMap.mpr ⟨g, Option.mem_toList.mpr hGrid, hX⟩)
  simp only [Grid.numbers, List.forall_mem_cons] at hNumbers
  obtain ⟨hAlpha, hThickness, hStepNumber, -⟩ := hNumbers
  have hStep := h.numbers g.step hStepNumber
  have hColor : g.color ∈ frameColors p :=
    List.mem_append_right _ (List.mem_map.mpr ⟨g, Option.mem_toList.mpr hGrid, rfl⟩)
  have hPath : ∀ c ∈ "M ".toList ++ Decimal.fixed g.step options.precision ++
      " 0 L 0 0 0 ".toList ++ Decimal.fixed g.step options.precision, q c := by
    simp only [List.forall_mem_append]
    exact ⟨⟨⟨h.literals "M " (by decide), hStep⟩, h.literals " 0 L 0 0 0 " (by decide)⟩, hStep⟩
  refine within_parent (by decide) ?_ (List.forall_mem_singleton.mpr (within_empty (by decide) ?_))
  · simp only [attributesWithin_cons]
    exact ⟨⟨by decide, h.literals "grid" (by decide)⟩, ⟨by decide, hStep⟩, ⟨by decide, hStep⟩,
      ⟨by decide, h.literals "userSpaceOnUse" (by decide)⟩, attributesWithin_nil⟩
  · simp only [attributesWithin_cons]
    exact ⟨⟨by decide, hPath⟩, ⟨by decide, h.literals "none" (by decide)⟩,
      h.colored hColor (by decide), h.number hThickness (by decide), h.number hAlpha (by decide),
      attributesWithin_nil⟩

theorem grid (hGrid : g ∈ p.grid) :
    ∀ e ∈ (Canvas.ofBox p.root.box options).grid g, Within q e := by
  simp only [Canvas.grid, List.forall_mem_cons]
  refine ⟨?_, ?_, List.forall_mem_nil _⟩
  · exact within_parent (by decide) attributesWithin_nil
      (List.forall_mem_singleton.mpr (h.tile hGrid))
  · refine within_empty (by decide) (List.forall_mem_append.mpr ⟨h.area, ?_⟩)
    exact List.forall_mem_singleton.mpr ⟨by decide, h.literals "url(#grid)" (by decide)⟩

theorem tick {x y : Binary64} (hX : x ∈ frameNumbers p) (hY : y ∈ frameNumbers p) :
    Within q ((Canvas.ofBox p.root.box options).tick p.root.color x y) := by
  have hZero := h.literals "0" (by decide)
  refine within_empty (by decide) ?_
  simp only [attributesWithin_cons]
  exact ⟨⟨by decide, hZero⟩, ⟨by decide, hZero⟩, h.number hX (by decide), h.number hY (by decide),
    h.colored (by simp [frameColors]) (by decide), ⟨by decide, h.literals "1" (by decide)⟩,
    attributesWithin_nil⟩

theorem frame : ∀ e ∈ frame p options, Within q e := by
  simp only [Drawing.frame, Canvas.ticks, List.forall_mem_cons, List.forall_mem_append,
    List.forall_mem_flatMap]
  exact ⟨h.background, fun g hMem => h.grid (Option.mem_toList.mp hMem),
    h.tick (by simp [frameNumbers]) (by simp [frameNumbers]),
    h.tick (by simp [frameNumbers]) (by simp [frameNumbers]), List.forall_mem_nil _⟩

theorem root : AttributesWithin q (rootAttributes p options) := by
  have hBox : ∀ c ∈ "0 0 ".toList ++ (Canvas.ofBox p.root.box options).widthText ++
      ' ' :: (Canvas.ofBox p.root.box options).heightText, q c := by
    simp only [List.forall_mem_append, List.forall_mem_cons]
    exact ⟨⟨h.literals "0 0 " (by decide), h.sides.1⟩,
      h.literals " " (by decide) ' ' (by decide), h.sides.2⟩
  simp only [rootAttributes, attributesWithin_cons]
  exact ⟨⟨by decide, h.literals namespaceName (by decide)⟩,
    ⟨by decide, h.literals "1.1" (by decide)⟩, ⟨by decide, h.sides.1⟩, ⟨by decide, h.sides.2⟩,
    ⟨by decide, hBox⟩, attributesWithin_nil⟩

end Covers

theorem covers_isDrawn (hColors : ∀ color ∈ p.colors, IsColor color) (options : Options) :
    Covers (fun c => isDrawn c) p options := by
  have hLiterals : literals.all fun text => text.toList.all isDrawn := by decide
  simp only [List.all_eq_true] at hLiterals
  refine ⟨hLiterals, fun x _ => Decimal.isDrawn_fixed x _, fun color hMem => ?_⟩
  exact (hColors color (List.mem_append_left _ hMem)).isDrawn

theorem drawn_of_within (h : AttributesWithin (fun c => isDrawn c) attributes) :
    ∀ a ∈ attributes, a.Drawn := fun a hMem =>
  ⟨(h a hMem).1, (h a hMem).2⟩

theorem frame_drawn (hColors : ∀ color ∈ p.colors, IsColor color) :
    ∀ e ∈ frame p options, Drawn e := by
  intro e hMem t hT
  obtain ⟨hName, hAttributes⟩ := (covers_isDrawn hColors options).frame e hMem t hT
  exact ⟨hName, drawn_of_within hAttributes⟩

theorem root_drawn (hColors : ∀ color ∈ p.colors, IsColor color) :
    ∀ a ∈ rootAttributes p options, a.Drawn :=
  drawn_of_within (covers_isDrawn hColors options).root

end Frame

end Drawing

/-! ## Shapes -/

def Shape.tagName : Shape → String
  | .line .. => "line"
  | .graph .. => "path"
  | .point .. => "circle"

def Shape.name? : Shape → Option String
  | .line _ _ name _ _ | .graph _ name _ _ | .point _ name _ => name

theorem Shape.isName_tagName (s : Shape) : IsName s.tagName := by
  have hAll : ∀ name ∈ ["line", "path", "circle"], IsName name := by decide
  refine hAll _ ?_
  cases s <;> simp [Shape.tagName]

namespace Drawing

variable {library : Expression.Library} {c : Canvas} {options : Options} {width : Binary64}
  {s : Shape} {ss : List Shape} {e : Element} {es : List Element} {p : Program}

/-- A shape that is drawn, whatever is reported on the way. -/
def Draws (library : Expression.Library) (c : Canvas) (options : Options) (width : Binary64)
    (s : Shape) (e : Element) : Prop :=
  (shape library c options width s).2 = .ok e

/-- Attributes the drawing writes itself, beside that of a name. -/
def Unnamed (attributes : List Attribute) : Prop :=
  ∀ a ∈ attributes, a.Drawn ∧ a.name ≠ "data-name"

theorem unnamed_cons {a : Attribute} {attributes : List Attribute} :
    Unnamed (a :: attributes) ↔ (a.Drawn ∧ a.name ≠ "data-name") ∧ Unnamed attributes :=
  List.forall_mem_cons

theorem unnamed_append {as bs : List Attribute} : Unnamed (as ++ bs) ↔ Unnamed as ∧ Unnamed bs :=
  List.forall_mem_append

theorem unnamed_nil : Unnamed [] := List.forall_mem_nil _

theorem number_unnamed {name : String} (x : Binary64) (places : Nat) (hName : IsName name)
    (hOther : name ≠ "data-name") :
    (number name x places).Drawn ∧ (number name x places).name ≠ "data-name" :=
  ⟨number_drawn x places hName, hOther⟩

theorem color_unnamed {name color : String} (hName : IsName name) (hOther : name ≠ "data-name")
    (hColor : IsColor color) :
    (colorAttribute name color).Drawn ∧ (colorAttribute name color).name ≠ "data-name" :=
  ⟨color_drawn hName hColor, hOther⟩

theorem thickness_unnamed (c : Canvas) (thickness : Option Binary64) :
    Unnamed (c.thicknessAttribute thickness) := by
  intro a hMem
  obtain ⟨t, -, rfl⟩ := List.mem_map.mp hMem
  exact number_unnamed t c.places (by decide) (by decide)

theorem stroke_unnamed {color : Option String} (hColor : ∀ text ∈ color, IsColor text) :
    Unnamed (color.toList.map (colorAttribute "stroke")) := by
  intro a hMem
  obtain ⟨text, hText, rfl⟩ := List.mem_map.mp hMem
  exact color_unnamed (by decide) (by decide) (hColor text (Option.mem_toList.mp hText))

/-- A shape that is drawn is one tag, with its name among attributes of the drawing. -/
theorem draws_attributes (h : Draws library c options width s e)
    (hColor : ∀ color ∈ s.color?, IsColor color) : ∃ before after,
      e = .empty s.tagName (before ++ Canvas.nameAttribute s.name? ++ after) ∧
        Unnamed before ∧ Unnamed after := by
  cases s with
  | line start finish title color thickness =>
    cases h
    refine ⟨_, _, rfl, ?_, thickness_unnamed c thickness⟩
    simp only [unnamed_append, unnamed_cons]
    exact ⟨⟨number_unnamed _ _ (by decide) (by decide), number_unnamed _ _ (by decide) (by decide),
      number_unnamed _ _ (by decide) (by decide), number_unnamed _ _ (by decide) (by decide),
      unnamed_nil⟩, stroke_unnamed hColor⟩
  | point location title color =>
    have hDrawn := Canvas.isColor_colorOrDefault hColor
    cases h
    refine ⟨_, [], by rw [List.append_nil]; rfl, ?_, unnamed_nil⟩
    simp only [unnamed_cons]
    exact ⟨number_unnamed _ _ (by decide) (by decide), number_unnamed _ _ (by decide) (by decide),
      number_unnamed _ _ (by decide) (by decide), color_unnamed (by decide) (by decide) hDrawn,
      color_unnamed (by decide) (by decide) hDrawn, unnamed_nil⟩
  | graph function title color thickness =>
    have hDrawn := Canvas.isColor_colorOrDefault hColor
    rw [Draws, shape] at h
    split at h
    · cases h
    · cases h
      refine ⟨_, _, rfl, ?_, thickness_unnamed c thickness⟩
      simp only [unnamed_cons]
      exact ⟨⟨attribute_drawn (by decide) (Curve.isDrawn_path _ _ _), by decide⟩,
        ⟨⟨by decide, by decide⟩, by decide⟩, color_unnamed (by decide) (by decide) hDrawn,
        unnamed_nil⟩

theorem draws_plain (h : Draws library c options width s e)
    (hColor : ∀ color ∈ s.color?, IsColor color) : Plain e := by
  obtain ⟨before, after, rfl, hBefore, hAfter⟩ := draws_attributes h hColor
  refine List.forall_mem_singleton.mpr ⟨s.isName_tagName, ?_⟩
  exact List.forall_mem_append.mpr ⟨List.forall_mem_append.mpr
    ⟨fun a hMem => (hBefore a hMem).1.plain, Canvas.nameAttribute_plain s.name?⟩,
    fun a hMem => (hAfter a hMem).1.plain⟩

theorem shapes_eq_ok (h : (shapes library c options width ss).2 = .ok es) :
    List.Forall₂ (Draws library c options width) ss es := by
  induction ss generalizing es with
  | nil =>
    cases h
    exact .nil
  | cons s ss ih =>
    rw [shapes] at h
    split at h
    · cases h
    · rename_i events e hFirst
      rcases hAll : shapes library c options width ss with ⟨more, drawn⟩
      rw [hAll] at h
      cases drawn with
      | error fault => cases h
      | ok rest =>
        cases h
        have hHead : (shape library c options width s).2 = .ok e := by rw [hFirst]
        exact .cons hHead (ih (by rw [hAll]))

theorem forall₂_plain (h : List.Forall₂ (Draws library c options width) ss es)
    (hColors : ∀ s ∈ ss, ∀ color ∈ s.color?, IsColor color) : ∀ e ∈ es, Plain e := by
  induction h with
  | nil => exact List.forall_mem_nil _
  | cons hFirst _ ih =>
    obtain ⟨hColor, hRest⟩ := List.forall_mem_cons.mp hColors
    exact List.forall_mem_cons.mpr ⟨draws_plain hFirst hColor, ih hRest⟩

/-- The document of a program is its frame and its shapes, in one element. -/
theorem document_root {d : Markup.Document} (h : (document library p options).2 = .ok d) : ∃ es,
    List.Forall₂ (Draws library (.ofBox p.root.box options) options p.root.box.width)
        p.shapes es ∧
      d = ⟨options.xmlDeclaration,
        .parent "svg" (rootAttributes p options) (frame p options ++ es)⟩ := by
  rw [document] at h
  rcases hShapes : shapes library (.ofBox p.root.box options) options p.root.box.width p.shapes
    with ⟨events, drawn⟩
  simp only [hShapes] at h
  cases drawn with
  | error fault => cases h
  | ok es =>
    cases h
    exact ⟨es, shapes_eq_ok (by rw [hShapes]), rfl⟩

theorem document_plain {d : Markup.Document} (h : (document library p options).2 = .ok d)
    (hColors : ∀ color ∈ p.colors, IsColor color) : Plain d.root := by
  obtain ⟨es, hDraws, rfl⟩ := document_root h
  have hName : IsName "svg" := by decide
  refine Element.forall_tags_parent ⟨hName, fun a hMem => (root_drawn hColors a hMem).plain⟩
    ⟨hName, List.forall_mem_nil _⟩ (List.forall_mem_append.mpr ⟨fun e hMem => ?_, ?_⟩)
  · exact (frame_drawn hColors e hMem).plain
  · exact forall₂_plain hDraws (Program.forall_color? hColors)

/-- A text that is rendered is that of a document. -/
theorem exists_document_of_render {text : String} (h : (render library p options).2 = .ok text) :
    ∃ d, (document library p options).2 = .ok d ∧ text = String.ofList d.text := by
  rw [render] at h
  rcases hDocument : document library p options with ⟨events, drawn⟩
  simp only [hDocument] at h
  cases drawn with
  | error fault => cases h
  | ok d =>
    cases h
    exact ⟨d, rfl, rfl⟩

end Drawing

end PlotLang
