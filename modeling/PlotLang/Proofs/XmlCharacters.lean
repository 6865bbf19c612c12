import PlotLang.Proofs.DrawnTags
import PlotLang.Proofs.Failures
import PlotLang.Proofs.SourceLines

/-! # Characters that are not of XML

XML has no way to write most control characters or the last two characters of the basic plane, not
even by an entity. Escaping lets them through, so a document holds those of the names of its shapes
and, in their order, no others.
-/

namespace PlotLang

open Markup (Attribute Element IsName Tag isDrawn)

namespace Markup

/-- A character that XML 1.0 allows in a document. -/
def isXmlChar (c : Char) : Bool :=
  c = '\t' || c = '\n' || c = '\r' || (0x20 ≤ c.toNat && c.toNat ≤ 0xD7FF) ||
    (0xE000 ≤ c.toNat && c.toNat ≤ 0xFFFD) || 0x10000 ≤ c.toNat

/-- The characters of a text that no document may hold. -/
def illegal (cs : List Char) : List Char := cs.filter fun c => !isXmlChar c

variable {c : Char} {cs ds : List Char} {name : String} {a : Attribute}
  {attributes : List Attribute} {d : Document} {t : Tag}

theorem illegal_eq_nil_iff : illegal cs = [] ↔ ∀ c ∈ cs, isXmlChar c := by
  simp [illegal, List.filter_eq_nil_iff]

@[simp] theorem illegal_append (cs ds : List Char) :
    illegal (cs ++ ds) = illegal cs ++ illegal ds :=
  List.filter_append _ _

theorem illegal_flatMap {α : Type} (xs : List α) (f : α → List Char) :
    illegal (xs.flatMap f) = xs.flatMap fun x => illegal (f x) :=
  List.filter_flatMap

theorem isXmlChar_of_isDrawn (h : isDrawn c) : isXmlChar c := by
  simp only [isDrawn, Bool.and_eq_true, decide_eq_true_eq] at h
  have hFirst : 0x20 ≤ c.toNat := h.1.1
  have hLast : c.toNat ≤ 0x7E := h.1.2
  have hPlane : c.toNat ≤ 0xD7FF := by omega
  simp [isXmlChar, hFirst, hPlane]

theorem illegal_of_isDrawn (h : IsDrawn cs) : illegal cs = [] :=
  illegal_eq_nil_iff.mpr fun c hMem => isXmlChar_of_isDrawn (h c hMem)

/-- An entity stands for a legal character, and is made of them. -/
theorem illegal_escapeChar (c : Char) : illegal (escapeChar c) = illegal [c] := by
  have hEntities : ∀ entity ∈ Reader.entities, illegal ('&' :: entity.1) = illegal [entity.2] := by
    decide
  obtain ⟨name, hName, hEntity⟩ | ⟨-, hSame⟩ := escapeChar_cases c
  · rw [hEntity]
    exact hEntities (name, c) hName
  · rw [hSame]

theorem illegal_escape (cs : List Char) : illegal (escape cs) = illegal cs := by
  rw [escape_eq_flatMap]
  induction cs with
  | nil => rfl
  | cons c cs ih =>
    rw [List.flatMap_cons, illegal_append, illegal_escapeChar, ih, ← illegal_append,
      List.singleton_append]

/-! ## Documents -/

theorem isDrawn_of_isNameChar (h : Reader.isNameChar c) : isDrawn c := by
  have hAscii : c.toNat < 128 := by
    have hParts : ((c.isUpper || c.isLower) || c.isDigit) || c = '-' := h
    simp only [Bool.or_eq_true, decide_eq_true_eq] at hParts
    obtain ((hUpper | hLower) | hDigit) | rfl := hParts
    · have hRange : 'A'.val ≤ c.val ∧ c.val ≤ 'Z'.val := of_decide_eq_true hUpper
      exact Nat.lt_of_le_of_lt hRange.2 (by decide)
    · have hLast : c.val ≤ 'z'.val := of_decide_eq_true (Bool.and_eq_true_iff.mp hLower).2
      exact Nat.lt_of_le_of_lt hLast (by decide)
    · have hLast : c.val ≤ '9'.val := of_decide_eq_true (Bool.and_eq_true_iff.mp hDigit).2
      exact Nat.lt_of_le_of_lt hLast (by decide)
    · decide
  have hAll : ∀ n < 128, Reader.isNameChar (Char.ofNat n) → isDrawn (Char.ofNat n) := by decide
  exact Text.forall_ascii (p := fun c => Reader.isNameChar c → isDrawn c) hAll hAscii h

theorem illegal_name (h : IsName name) : illegal name.toList = [] :=
  illegal_of_isDrawn fun c hMem => isDrawn_of_isNameChar (List.all_eq_true.mp h.2 c hMem)

/-- The illegal characters of a tag whose names have none. -/
def Tag.illegal (t : Tag) : List Char := t.attributes.flatMap fun a => Markup.illegal a.value

theorem illegal_write (h : IsName a.name) : illegal a.write = illegal a.value := by
  have hWrite : a.write = [' '] ++ (a.name.toList ++ (['=', '"'] ++ (a.value ++ ['"']))) := by
    simp [Attribute.write]
  have hBlank : illegal [' '] = [] := rfl
  have hSign : illegal ['=', '"'] = [] := rfl
  have hQuote : illegal ['"'] = [] := rfl
  rw [hWrite]
  simp only [illegal_append, illegal_name h, hBlank, hSign, hQuote, List.nil_append,
    List.append_nil]

theorem illegal_opening (hName : IsName name) (hPlain : ∀ a ∈ attributes, a.Plain) :
    illegal (Element.opening name attributes) =
      attributes.flatMap fun a => illegal a.value := by
  have hSign : illegal ['<'] = [] := rfl
  have hOpening : Element.opening name attributes =
      ['<'] ++ (name.toList ++ attributes.flatMap Attribute.write) := rfl
  rw [hOpening, illegal_append, illegal_append, hSign, illegal_name hName, illegal_flatMap]
  exact List.flatMap_congr fun a hMem => illegal_write (hPlain a hMem).name

theorem illegal_indent (depth : Nat) : illegal (Element.indent depth) = [] := by
  refine illegal_eq_nil_iff.mpr fun c hMem => ?_
  cases List.eq_of_mem_replicate hMem
  rfl

mutual

theorem illegal_lines (depth : Nat) (e : Element) (h : ∀ t ∈ e.tags, t.Plain) :
    (e.lines depth).flatMap illegal = e.tags.flatMap Tag.illegal := by
  cases e with
  | empty name attributes =>
    rw [Element.tags, List.forall_mem_singleton] at h
    have hEnd : illegal " />".toList = [] := rfl
    rw [Element.lines, Element.tags, List.flatMap_singleton, List.flatMap_singleton, illegal_append,
      illegal_append, illegal_indent, illegal_opening h.name h.attributes, hEnd, List.nil_append,
      List.append_nil]
    rfl
  | parent name attributes children =>
    rw [Element.tags, List.forall_mem_cons, List.forall_mem_append] at h
    obtain ⟨hOpening, hChildren, -⟩ := h
    have hName : IsName name := hOpening.name
    have hEnd : illegal ['>'] = [] := rfl
    have hSign : illegal "</".toList = [] := rfl
    have hClosing : Tag.illegal ⟨.closing, name, []⟩ = [] := rfl
    rw [Element.lines, Element.tags]
    simp only [List.flatMap_cons, List.flatMap_append, List.flatMap_nil, illegal_append,
      illegal_indent, illegal_name hName, illegal_opening hName hOpening.attributes, hEnd, hSign,
      hClosing, illegal_linesAll (depth + 1) children hChildren, List.nil_append, List.append_nil]
    rfl

theorem illegal_linesAll (depth : Nat) (es : List Element)
    (h : ∀ t ∈ Element.tagsAll es, t.Plain) :
    (Element.linesAll depth es).flatMap illegal = (Element.tagsAll es).flatMap Tag.illegal := by
  cases es with
  | nil => rfl
  | cons e es =>
    obtain ⟨hFirst, hRest⟩ := List.forall_mem_append.mp h
    rw [Element.linesAll, Element.tagsAll, List.flatMap_append, List.flatMap_append,
      illegal_lines depth e hFirst, illegal_linesAll depth es hRest]

end

theorem illegal_text (h : ∀ t ∈ d.root.tags, t.Plain) :
    illegal d.text = d.root.tags.flatMap Tag.illegal := by
  have hBreak : illegal ['\n'] = [] := rfl
  have hDeclaration : illegal declaration = [] := by decide
  have hLines : illegal d.text = d.lines.flatMap illegal := by
    rw [Document.text, illegal_flatMap]
    simp only [illegal_append, hBreak, List.append_nil]
  have hDeclared : (if d.declared then [declaration] else []).flatMap illegal = [] := by
    split
    · rw [List.flatMap_singleton, hDeclaration]
    · rfl
  rw [hLines, Document.lines, List.flatMap_append, hDeclared, List.nil_append,
    illegal_lines 0 d.root h]

theorem Tag.illegal_of_drawn (h : t.Drawn) : t.illegal = [] :=
  List.flatMap_eq_nil_iff.mpr fun a hMem => illegal_of_isDrawn (h.attributes a hMem).value

end Markup

open Markup (illegal illegal_append illegal_escape illegal_of_isDrawn isXmlChar)

/-! ## Drawings -/

/-- The characters of a shape's name that no document may hold. -/
def Shape.illegal (s : Shape) : List Char := s.name?.toList.flatMap fun name =>
  Markup.illegal name.toList

namespace Drawing

variable {library : Expression.Library} {c : Canvas} {options : Options} {width : Binary64}
  {s : Shape} {ss : List Shape} {e : Element} {es : List Element} {p : Program}
  {attributes : List Attribute}

theorem illegal_of_unnamed (h : Unnamed attributes) :
    (attributes.flatMap fun a => illegal a.value) = [] :=
  List.flatMap_eq_nil_iff.mpr fun a hMem => illegal_of_isDrawn (h a hMem).1.value

theorem illegal_nameAttribute (name : Option String) :
    ((Canvas.nameAttribute name).flatMap fun a => illegal a.value) =
      name.toList.flatMap fun text => illegal text.toList := by
  cases name with
  | none => rfl
  | some text => simp [Canvas.nameAttribute, Attribute.text, illegal_escape]

theorem illegal_of_draws (h : Draws library c options width s e)
    (hColor : ∀ color ∈ s.color?, IsColor color) : e.tags.flatMap Tag.illegal = s.illegal := by
  obtain ⟨before, after, rfl, hBefore, hAfter⟩ := draws_attributes h hColor
  rw [Element.tags, List.flatMap_singleton, Tag.illegal, List.flatMap_append, List.flatMap_append,
    illegal_of_unnamed hBefore, illegal_of_unnamed hAfter, illegal_nameAttribute, List.nil_append,
    List.append_nil, Shape.illegal]

theorem illegal_of_allDrawn (h : List.Forall₂ (Draws library c options width) ss es)
    (hColors : ∀ s ∈ ss, ∀ color ∈ s.color?, IsColor color) :
    (Element.tagsAll es).flatMap Tag.illegal = ss.flatMap Shape.illegal := by
  induction h with
  | nil => rfl
  | cons hFirst _ ih =>
    obtain ⟨hColor, hRest⟩ := List.forall_mem_cons.mp hColors
    rw [Element.tagsAll, List.flatMap_append, List.flatMap_cons, illegal_of_draws hFirst hColor,
      ih hRest]

theorem illegal_of_document {d : Markup.Document} (h : (document library p options).2 = .ok d)
    (hColors : ∀ color ∈ p.colors, IsColor color) :
    illegal d.text = p.shapes.flatMap Shape.illegal := by
  rw [Markup.illegal_text (document_plain h hColors)]
  obtain ⟨es, hDraws, rfl⟩ := document_root h
  have hName : IsName "svg" := by decide
  have hOpening : Tag.illegal ⟨.opening, "svg", rootAttributes p options⟩ = [] :=
    Tag.illegal_of_drawn ⟨hName, root_drawn hColors⟩
  have hClosing : Tag.illegal ⟨.closing, "svg", []⟩ = [] := rfl
  have hFrame : (Element.tagsAll (frame p options)).flatMap Tag.illegal = [] :=
    List.flatMap_eq_nil_iff.mpr fun t hMem => Tag.illegal_of_drawn
      (Element.forall_tagsAll (frame_drawn hColors) t hMem)
  simp only [Element.tags, tagsAll_append, List.flatMap_cons, List.flatMap_append,
    List.flatMap_nil, hOpening, hClosing, hFrame, List.nil_append, List.append_nil]
  exact illegal_of_allDrawn hDraws (Program.forall_color? hColors)

theorem illegal_of_render {text : String} (h : (render library p options).2 = .ok text)
    (hColors : ∀ color ∈ p.colors, IsColor color) :
    illegal text.toList = p.shapes.flatMap Shape.illegal := by
  obtain ⟨d, hDocument, rfl⟩ := exists_document_of_render h
  rw [String.toList_ofList]
  exact illegal_of_document hDocument hColors

end Drawing

/-! ## Where names come from -/

namespace Lexer

variable {t : Token} {cut : List Char} {ps : List Placed} {p : Placed} {source : String}

theorem stringBody_subset (cs : List Char) : (stringBody cs).1 ⊆ cs := by
  fun_induction stringBody cs with
  | case1 | case2 | case3 => exact List.nil_subset _
  | case4 c rest text rest' hText ih =>
    rw [hText] at ih
    exact List.subset_cons_of_subset _ (List.cons_subset_cons _ ih)
  | case5 c rest _ _ _ text rest' hText ih =>
    rw [hText] at ih
    exact List.cons_subset_cons _ ih

theorem Cut.exists_writes (h : Cut cut ps) (hMem : p ∈ ps) :
    ∃ ds, Writes p.token ds ∧ ds ⊆ cut := by
  induction h with
  | nil => cases hMem
  | silent _ _ _ ih =>
    obtain ⟨ds, hWrites, hSub⟩ := ih hMem
    exact ⟨ds, hWrites, List.subset_append_of_subset_left _ hSub⟩
  | lexeme _ _ hLexeme ih =>
    obtain hEarlier | hLast := List.mem_append.mp hMem
    · obtain ⟨ds, hWrites, hSub⟩ := ih hEarlier
      exact ⟨ds, hWrites, List.subset_append_of_subset_left _ hSub⟩
    · cases List.mem_singleton.mp hLast
      exact ⟨_, hLexeme, List.subset_append_right _ _⟩

/-- A string is made of characters of its source. -/
theorem string_subset {tokens : List Token} (hTokens : tokenize source = .ok tokens)
    (hMem : t ∈ tokens) (hKind : t.kind = .string) : t.text.toList ⊆ source.toList := by
  rw [tokenize] at hTokens
  rcases hScan : scan source with ⟨final, _ | error⟩
  · rw [hScan] at hTokens
    cases hTokens
    have hTraces := run_traces (traced_start source) source.toList.length
    have hRun : run source.toList.length (State.start source) = (final, none) := hScan
    rw [hRun] at hTraces
    obtain ⟨cut, ps, hTaken, hDivided, hPlaced, -⟩ := hTraces.places
    obtain ⟨p, hP, rfl⟩ := List.mem_map.mp (hPlaced ▸ hMem)
    obtain ⟨ds, hWrites, hSub⟩ := hDivided.exists_writes hP
    rw [Writes, hKind] at hWrites
    obtain ⟨body, rfl, hBody⟩ := hWrites
    have hText := stringBody_subset body
    rw [hBody] at hText
    exact fun c hC => hTaken.subset (hSub (List.mem_cons_of_mem _ (hText hC)))
  · rw [hScan] at hTokens
    cases hTokens

end Lexer

namespace Grammar

variable {defs : List Definition} {table : List (String × Field)} {tokens ts : List Token}
  {entries : List Entry} {items : List Item} {item : Item} {e : Entry} {s : Shape} {p : Program}
  {name : String}

theorem Body.exists_denotes (h : Body defs table ts entries) (hMem : e ∈ entries) :
    ∃ us ⊆ ts, e.field.Denotes defs us e.value := by
  induction h with
  | close => cases hMem
  | field _ _ hDenotes _ ih =>
    obtain rfl | hLater := List.mem_cons.mp hMem
    · exact ⟨_, List.subset_cons_of_subset _ (List.subset_append_left _ _), hDenotes⟩
    · obtain ⟨us, hSub, hValue⟩ := ih hLater
      exact ⟨us, List.subset_cons_of_subset _ (List.subset_append_of_subset_right _ hSub), hValue⟩

theorem name_eq_last? {form : Form} (h : form.item? entries = some (.shape s)) :
    s.name? = last? .name entries := by
  cases form with
  | grid => cases h
  | definition | graph | point =>
    simp only [Form.item?, Option.bind_eq_bind, Option.bind_eq_some_iff, Option.pure_def,
      Option.some.injEq] at h
    obtain ⟨_, _, hShape⟩ := h
    cases hShape <;> rfl
  | root | line =>
    simp only [Form.item?, Option.bind_eq_bind, Option.bind_eq_some_iff, Option.pure_def,
      Option.some.injEq] at h
    obtain ⟨_, _, _, _, hShape⟩ := h
    cases hShape <;> rfl

theorem Blocks.exists_block (h : Blocks defs tokens items) (hMem : item ∈ items) :
    ∃ known ts, ts ⊆ tokens ∧ Block known ts item := by
  induction h with
  | nil => cases hMem
  | cons hBlock _ ih =>
    obtain rfl | hLater := List.mem_cons.mp hMem
    · exact ⟨_, _, List.subset_append_left _ _, hBlock⟩
    · obtain ⟨known, ts, hSub, hItem⟩ := ih hLater
      exact ⟨known, ts, List.subset_append_of_subset_right _ hSub, hItem⟩

/-- The name of a shape is the text of a string. -/
theorem exists_string_of_name (h : Builder.buildChecked tokens = .ok p) (hShape : s ∈ p.shapes)
    (hName : s.name? = some name) : ∃ t ∈ tokens, t.kind = .string ∧ t.text = name := by
  obtain ⟨items, hItems⟩ := build_eq_ok_iff.mp (buildChecked_eq_ok_iff.mp h).2
  obtain ⟨hBlocks, hAmounts⟩ := collects_iff_amounts.mp hItems
  obtain ⟨item, hItem, hOf⟩ := List.mem_filterMap.mp (hAmounts.shapes ▸ hShape)
  cases item <;> cases hOf
  obtain ⟨known, ts, hTs, form, opener, opening, body, entries, rfl, -, hBody, hAmount⟩ :=
    hBlocks.exists_block hItem
  rw [name_eq_last? hAmount] at hName
  obtain ⟨us, hUs, vs, ⟨t, hKind, rfl, rfl⟩, hMeans⟩ := hBody.exists_denotes (mem_of_last? hName)
  refine ⟨t, hTs (List.mem_append_right _ (hUs List.mem_cons_self)), ?_, ?_⟩
  · exact List.mem_singleton.mp hKind
  · exact List.singleton_inj.mp hMeans

end Grammar

/-! ## Sources -/

namespace Compilation

variable {library : Expression.Library} {source text : String} {options : Options} {p : Program}

theorem document_eq_ok_iff (hSource : source.isEmpty = false) :
    (document library source options).2 = .ok text ↔
      ∃ p, (program source).2 = .ok p ∧ (Drawing.render library p options).2 = .ok text := by
  rw [document, hSource]
  rcases program source with ⟨events, failure | p⟩
  · simp
  · rcases hDrawn : Drawing.render library p options with ⟨more, fault | drawn⟩ <;>
      simp [draw, hDrawn, Except.mapError]

theorem exists_program_of_document (h : (document library source options).2 = .ok text)
    (hText : text ≠ "") :
    ∃ p, (program source).2 = .ok p ∧ (Drawing.render library p options).2 = .ok text := by
  have hSource : source.isEmpty = false := by
    refine Bool.eq_false_iff.mpr fun hEmpty => ?_
    rw [document, if_pos hEmpty] at h
    cases h
    exact hText rfl
  exact (document_eq_ok_iff hSource).mp h

theorem colors_of_program (h : (program source).2 = .ok p) : ∀ color ∈ p.colors, IsColor color := by
  obtain ⟨tokens, hTokens, hBuild⟩ := program_eq_ok_iff.mp h
  exact (Grammar.sound_of_tokenize hTokens hBuild).colors

theorem illegal_of_program (h : (program source).2 = .ok p) : p.shapes.flatMap Shape.illegal ⊆
    source.toList := by
  intro c hMem
  obtain ⟨tokens, hTokens, hBuild⟩ := program_eq_ok_iff.mp h
  obtain ⟨s, hShape, hC⟩ := List.mem_flatMap.mp hMem
  obtain ⟨name, hName, hC⟩ := List.mem_flatMap.mp hC
  obtain ⟨t, hT, hKind, rfl⟩ :=
    Grammar.exists_string_of_name hBuild hShape (Option.mem_toList.mp hName)
  exact Lexer.string_subset hTokens hT hKind (List.mem_of_mem_filter hC)

/-- The characters of a document that XML does not allow are those of the names of its shapes, and
all of them stand in the source. -/
theorem illegal_of_compiled (h : (document library source options).2 = .ok text)
    (hText : text ≠ "") :
    ∃ p, (program source).2 = .ok p ∧
      illegal text.toList = p.shapes.flatMap Shape.illegal ∧
      illegal text.toList ⊆ source.toList := by
  obtain ⟨p, hProgram, hRender⟩ := exists_program_of_document h hText
  have hIllegal := Drawing.illegal_of_render hRender (colors_of_program hProgram)
  exact ⟨p, hProgram, hIllegal, hIllegal ▸ illegal_of_program hProgram⟩

/-- A point with a control character for a name. -/
def controlInName : String :=
  "#define x max 1 #end #root axes x, x box 0 0 9 9 #end @point at 1 1 name \"\x01\" #end"

def controlInNameTokens : List Token :=
  [⟨1, .define, "define"⟩, ⟨1, .newIdentifier, "x"⟩, ⟨1, .keyword, "max"⟩, ⟨1, .integer, "1"⟩,
    ⟨1, .declaration, "end"⟩, ⟨1, .declaration, "root"⟩, ⟨1, .keyword, "axes"⟩,
    ⟨1, .variable, "x"⟩, ⟨1, .comma, ","⟩, ⟨1, .variable, "x"⟩, ⟨1, .keyword, "box"⟩,
    ⟨1, .integer, "0"⟩, ⟨1, .integer, "0"⟩, ⟨1, .integer, "9"⟩, ⟨1, .integer, "9"⟩,
    ⟨1, .declaration, "end"⟩, ⟨1, .shapeFunction, "point"⟩, ⟨1, .keyword, "at"⟩, ⟨1, .integer, "1"⟩,
    ⟨1, .integer, "1"⟩, ⟨1, .keyword, "name"⟩, ⟨1, .string, "\x01"⟩, ⟨1, .declaration, "end"⟩]

theorem exists_document_controlInName (library : Expression.Library) : ∃ text,
    (document library controlInName {}).2 = .ok text ∧ illegal text.toList = ['\x01'] := by
  have hTokens : Lexer.tokenize controlInName = .ok controlInNameTokens := by cbv
  have hParts : (Builder.buildChecked controlInNameTokens).toOption.map Program.shapes =
      some [.point ⟨1, 1⟩ (some "\x01") none] := by
    decide +kernel
  obtain ⟨p, hBuild, hShapes⟩ := Grammar.exists_ok_of_toOption hParts
  have hProgram : (program controlInName).2 = .ok p :=
    program_eq_ok_iff.mpr ⟨_, hTokens, hBuild⟩
  obtain ⟨text, hRender⟩ : ∃ text, (Drawing.render library p {}).2 = .ok text := by
    simp [Drawing.render, Drawing.document, Drawing.shapes, Drawing.shape, hShapes, Except.map]
  have hIllegal := Drawing.illegal_of_render hRender (colors_of_program hProgram)
  rw [hShapes] at hIllegal
  exact ⟨text, (document_eq_ok_iff rfl).mpr ⟨p, hProgram, hRender⟩, hIllegal⟩

theorem illegal_of_compiled_controlInName : ∃ text p,
    (document .identity controlInName {}).2 = .ok text ∧ text ≠ "" ∧
      (program controlInName).2 = .ok p ∧ illegal text.toList = p.shapes.flatMap Shape.illegal ∧
      illegal text.toList ⊆ controlInName.toList := by
  obtain ⟨text, hDocument, hIllegal⟩ := exists_document_controlInName .identity
  have hText : text ≠ "" := by
    rintro rfl
    cases hIllegal
  obtain ⟨p, hProgram, hNames, hSource⟩ := illegal_of_compiled hDocument hText
  exact ⟨text, p, hDocument, hText, hProgram, hNames, hSource⟩

/-- The control character is in the document. -/
theorem document_not_xml_controlInName : ∃ text,
    (document .identity controlInName {}).2 = .ok text ∧ text ≠ "" ∧
      ¬∀ c ∈ text.toList, isXmlChar c := by
  obtain ⟨text, hDocument, hIllegal⟩ := exists_document_controlInName .identity
  refine ⟨text, hDocument, ?_, fun hAll => ?_⟩
  · rintro rfl
    cases hIllegal
  · rw [Markup.illegal_eq_nil_iff.mpr hAll] at hIllegal
    cases hIllegal

end Compilation

end PlotLang
