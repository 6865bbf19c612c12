import PlotLang.Proofs.DrawnTexts

/-! # The tags of a drawing

No text of a drawing ends the attribute it stands in: what a drawing writes itself holds no
delimiter, and names are escaped. So the document is read back tag by tag, and the name of a shape
is found in the tag of that shape.
-/

namespace PlotLang

open Markup (Attribute Element IsName Tag)

/-- The texts that the values of an attribute stand for. -/
def Markup.Tag.texts (t : Tag) (name : String) : List String :=
  (t.attributes.filter (·.name = name)).map fun a => String.ofList (Markup.Reader.decode a.value)

/-- One empty tag, with the name of the shape if it has one. -/
structure Shape.IsTag (s : Shape) (t : Tag) : Prop where
  kind : t.kind = .empty
  name : t.name = s.tagName
  texts : t.texts "data-name" = s.name?.toList

namespace Drawing

variable {library : Expression.Library} {c : Canvas} {options : Options} {width : Binary64}
  {s : Shape} {ss : List Shape}
  {e : Element} {es : List Element} {p : Program} {attributes : List Attribute}

/-- Among attributes of other names, that of a shape's name is found, and stands for it. -/
theorem texts_around {before after : List Attribute} (kind : Tag.Kind) (tagName : String)
    (title : Option String) (hBefore : Unnamed before) (hAfter : Unnamed after) :
    (Tag.mk kind tagName (before ++ Canvas.nameAttribute title ++ after)).texts "data-name" =
      title.toList := by
  have hNone : ∀ {as : List Attribute}, Unnamed as → as.filter (·.name = "data-name") = [] := by
    intro as hAs
    refine List.filter_eq_nil_iff.mpr fun a hMem => ?_
    simpa using (hAs a hMem).2
  rw [Tag.texts, List.filter_append, List.filter_append, hNone hBefore, hNone hAfter,
    List.append_nil, List.nil_append]
  cases title with
  | none => rfl
  | some text => simp [Canvas.nameAttribute, Attribute.text, Markup.Reader.decode_escape]

theorem tags_of_draws (h : List.Forall₂ (Draws library c options width) ss es)
    (hColors : ∀ s ∈ ss, ∀ color ∈ s.color?, IsColor color) :
    List.Forall₂ Shape.IsTag ss (Element.tagsAll es) := by
  induction h with
  | nil => exact .nil
  | cons hFirst _ ih =>
    obtain ⟨hColor, hRest⟩ := List.forall_mem_cons.mp hColors
    obtain ⟨before, after, rfl, hBefore, hAfter⟩ := draws_attributes hFirst hColor
    exact .cons ⟨rfl, rfl, texts_around _ _ _ hBefore hAfter⟩ (ih hRest)

/-! ## The document -/

theorem tagsAll_append (es es' : List Element) :
    Element.tagsAll (es ++ es') = Element.tagsAll es ++ Element.tagsAll es' := by
  induction es with
  | nil => rfl
  | cons e es ih => rw [List.cons_append, Element.tagsAll, Element.tagsAll, ih, List.append_assoc]

/-- A tag by its kind, its name and some of its attributes. -/
structure Outline where
  kind : Tag.Kind
  name : String
  attributes : List Attribute

def Outline.Fits (o : Outline) (t : Tag) : Prop :=
  t.kind = o.kind ∧ t.name = o.name ∧ o.attributes ⊆ t.attributes

def gridOutline (g : Grid) : List Outline :=
  [⟨.opening, "defs", []⟩, ⟨.opening, "pattern", [.plain "id" "grid"]⟩,
    ⟨.empty, "path", [colorAttribute "stroke" g.color]⟩, ⟨.closing, "pattern", []⟩,
    ⟨.closing, "defs", []⟩, ⟨.empty, "rect", [.plain "fill" "url(#grid)"]⟩]

/-- The tags of a drawing before those of the shapes. -/
def outline (p : Program) (options : Options) : List Outline :=
  (if options.xmlDeclaration then [⟨.declaration, "xml", []⟩] else []) ++
    [⟨.opening, "svg", []⟩, ⟨.empty, "rect", [colorAttribute "fill" p.root.background]⟩] ++
    p.grid.toList.flatMap gridOutline ++
    List.replicate 2 ⟨.empty, "line", [colorAttribute "stroke" p.root.color]⟩

theorem fits_nil (kind : Tag.Kind) (name : String) (attributes : List Attribute) :
    Outline.Fits ⟨kind, name, []⟩ ⟨kind, name, attributes⟩ :=
  ⟨rfl, rfl, List.nil_subset _⟩

theorem fits_of_mem {a : Attribute} (kind : Tag.Kind) (name : String)
    (h : a ∈ attributes) : Outline.Fits ⟨kind, name, [a]⟩ ⟨kind, name, attributes⟩ :=
  ⟨rfl, rfl, List.cons_subset.mpr ⟨h, List.nil_subset _⟩⟩

theorem grid_fits (c : Canvas) (g : Grid) :
    List.Forall₂ Outline.Fits (gridOutline g) (Element.tagsAll (c.grid g)) := by
  refine .cons (fits_nil _ _ _) <| .cons (fits_of_mem _ _ ?_) <|
    .cons (fits_of_mem _ _ ?_) <| .cons (fits_nil _ _ _) <|
    .cons (fits_nil _ _ _) <| .cons (fits_of_mem _ _ ?_) .nil
  · exact List.mem_cons_self
  · simp
  · simp

theorem frame_fits (p : Program) (options : Options) (attributes : List Attribute) :
    List.Forall₂ Outline.Fits (outline p options)
      ((if options.xmlDeclaration then [Markup.declarationTag] else []) ++
        ⟨.opening, "svg", attributes⟩ :: Element.tagsAll (frame p options)) := by
  have hDeclaration : List.Forall₂ Outline.Fits
      (if options.xmlDeclaration then [⟨.declaration, "xml", []⟩] else [])
      (if options.xmlDeclaration then [Markup.declarationTag] else []) := by
    split
    · exact .cons (fits_nil _ _ _) .nil
    · exact .nil
  have hGrid : List.Forall₂ Outline.Fits (p.grid.toList.flatMap gridOutline)
      (Element.tagsAll (p.grid.toList.flatMap (Canvas.ofBox p.root.box options).grid)) := by
    cases p.grid with
    | none => exact .nil
    | some g => simpa using grid_fits (.ofBox p.root.box options) g
  have hTicks : List.Forall₂ Outline.Fits
      (List.replicate 2 ⟨.empty, "line", [colorAttribute "stroke" p.root.color]⟩)
      (Element.tagsAll ((Canvas.ofBox p.root.box options).ticks p.root)) :=
    .cons (fits_of_mem _ _ (by simp)) (.cons (fits_of_mem _ _ (by simp)) .nil)
  rw [outline, frame, Element.tagsAll, tagsAll_append, List.append_assoc, List.append_assoc]
  refine List.rel_append hDeclaration (.cons (fits_nil _ _ _) (.cons (fits_of_mem _ _ ?_) ?_))
  · simp
  · exact List.rel_append hGrid hTicks

/-- The document of an accepted source is read back as the frame, a tag for each shape in order and
the closing tag, and the name of each shape is found in its tag whatever its characters are. -/
theorem rendered_reads_back {source text : String} {tokens : List Token}
    (hTokens : Lexer.tokenize source = .ok tokens) (hBuild : Builder.buildChecked tokens = .ok p)
    (hRender : (render library p options).2 = .ok text) :
    ∃ before shapes, List.Forall₂ Outline.Fits (outline p options) before ∧
      List.Forall₂ Shape.IsTag p.shapes shapes ∧
      Markup.Reader.read text.toList = some (before ++ shapes ++ [⟨.closing, "svg", []⟩]) := by
  have hColors : ∀ color ∈ p.colors, IsColor color :=
    (Grammar.sound_of_emitted (Lexer.tokenize_emitted hTokens).1
      (Grammar.buildChecked_eq_ok_iff.mp hBuild).2).colors
  obtain ⟨d, hDocument, rfl⟩ := exists_document_of_render hRender
  have hPlain := document_plain hDocument hColors
  obtain ⟨es, hDraws, rfl⟩ := document_root hDocument
  refine ⟨_, _, frame_fits p options (rootAttributes p options),
    tags_of_draws hDraws (Program.forall_color? hColors), ?_⟩
  rw [String.toList_ofList, Markup.Reader.read_text ⟨options.xmlDeclaration, _⟩ hPlain]
  simp [Markup.Document.tags, Element.tags, tagsAll_append]

/-- A point whose name would end its attribute and its tag, and holds the text of an entity. -/
def markupInName : String :=
  "#define x max 1 #end #root axes x, x box 0 0 9 9 #end " ++
    "@point at 1 1 name \"\\\"/> <b a=\\\"&lt;\" #end"

def markupInNameTokens : List Token :=
  [⟨1, .define, "define"⟩, ⟨1, .newIdentifier, "x"⟩, ⟨1, .keyword, "max"⟩, ⟨1, .integer, "1"⟩,
    ⟨1, .declaration, "end"⟩, ⟨1, .declaration, "root"⟩, ⟨1, .keyword, "axes"⟩,
    ⟨1, .variable, "x"⟩, ⟨1, .comma, ","⟩, ⟨1, .variable, "x"⟩, ⟨1, .keyword, "box"⟩,
    ⟨1, .integer, "0"⟩, ⟨1, .integer, "0"⟩, ⟨1, .integer, "9"⟩, ⟨1, .integer, "9"⟩,
    ⟨1, .declaration, "end"⟩, ⟨1, .shapeFunction, "point"⟩, ⟨1, .keyword, "at"⟩, ⟨1, .integer, "1"⟩,
    ⟨1, .integer, "1"⟩, ⟨1, .keyword, "name"⟩, ⟨1, .string, "\"/> <b a=\"&lt;"⟩,
    ⟨1, .declaration, "end"⟩]

theorem rendered_reads_back_markupInName : ∃ p text before tag,
    (render .identity p {}).2 = .ok text ∧ tag.texts "data-name" = ["\"/> <b a=\"&lt;"] ∧
      Markup.Reader.read text.toList = some (before ++ [tag] ++ [⟨.closing, "svg", []⟩]) := by
  have hTokens : Lexer.tokenize markupInName = .ok markupInNameTokens := by cbv
  have hParts : (Builder.buildChecked markupInNameTokens).toOption.map Program.shapes =
      some [.point ⟨1, 1⟩ (some "\"/> <b a=\"&lt;") none] := by
    decide +kernel
  obtain ⟨p, hBuild, hShapes⟩ := Grammar.exists_ok_of_toOption hParts
  obtain ⟨text, hRender⟩ : ∃ text, (render .identity p {}).2 = .ok text := by
    simp [render, document, shapes, shape, hShapes, Except.map]
  obtain ⟨before, tags, -, hTags, hRead⟩ := rendered_reads_back hTokens hBuild hRender
  rw [hShapes] at hTags
  obtain ⟨tag, rest, hTag, hRest, rfl⟩ := List.forall₂_cons_left_iff.mp hTags
  cases hRest
  exact ⟨p, text, before, tag, hRender, hTag.texts, hRead⟩

end Drawing

end PlotLang
