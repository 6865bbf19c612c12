import PlotLang.Proofs.Strokes
import PlotLang.Proofs.XmlCharacters

/-! # The tile of a grid

A grid is filled with a square tile whose side is the step. The step is positive, but the side is
the step rounded to the places of the drawing, and infinity is written by name. So the side denotes
a positive number only if the step is finite and more than half a unit of the last place.
-/

namespace PlotLang

namespace Decimal

variable {x : Binary64} {places : ℕ}

theorem number?_fixed_eq_some_iff {r : ℚ} : number? (fixed x places) = some r ↔
    x.isFinite ∧ IsRounded places x.value r := by
  cases hFinite : x.isFinite with
  | true =>
    obtain ⟨s, hRead, hRounded⟩ := exists_number?_fixed hFinite places
    rw [hRead, Option.some.injEq, eq_self, true_and]
    exact ⟨fun hEq => hEq ▸ hRounded, hRounded.unique⟩
  | false => simp [number?_fixed_eq_none hFinite]

theorem fixed_denotes_pos_iff : (∃ r, number? (fixed x places) = some r ∧ 0 < r) ↔
    x.isFinite ∧ 1 / 2 < x.value * 10 ^ places := by
  cases hFinite : x.isFinite with
  | true =>
    obtain ⟨r, hRead, hRounded⟩ := exists_number?_fixed hFinite places
    simp [hRead, hRounded.pos_iff]
  | false => simp [number?_fixed_eq_none hFinite]

end Decimal

namespace Drawing

open Markup (Attribute Element Tag)
open Text (words)

variable {library : Expression.Library} {options : Options} {p : Program} {g : Grid}
  {d : Markup.Document}

/-- A square tile: the tag that opens the pattern, and the path along two of its sides. -/
structure IsTile (side : List Char) (pattern path : Tag) : Prop where
  kind : pattern.kind = .opening
  name : pattern.name = "pattern"
  width : pattern.values "width" = [side]
  height : pattern.values "height" = [side]
  pathName : path.name = "path"
  pathWords : (path.values "d").map words =
    [[['M'], side, ['0'], ['L'], ['0'], ['0'], ['0'], side]]

def OpensPattern (t : Tag) : Prop := t.kind = .opening ∧ t.name = "pattern"

instance : DecidablePred OpensPattern := fun _ => inferInstanceAs (Decidable (_ ∧ _))

theorem words_tilePath (x : Binary64) (places : ℕ) :
    words ("M ".toList ++ Decimal.fixed x places ++ " 0 L 0 0 0 ".toList ++
      Decimal.fixed x places) =
      [['M'], Decimal.fixed x places, ['0'], ['L'], ['0'], ['0'], ['0'],
        Decimal.fixed x places] := by
  have hFixed := Curve.words_fixed x places
  generalize Decimal.fixed x places = side at hFixed ⊢
  have hSplit : "M ".toList ++ side ++ " 0 L 0 0 0 ".toList ++ side =
      ['M'] ++ ' ' :: (side ++ ' ' :: ("0 L 0 0 0".toList ++ ' ' :: side)) := by
    simp
  have hLetter : words ['M'] = [['M']] := by decide
  have hCorner : words "0 L 0 0 0".toList = [['0'], ['L'], ['0'], ['0'], ['0']] := by decide
  rw [hSplit, Text.words_blank, Text.words_blank, Text.words_blank, hFixed, hLetter, hCorner]
  rfl

theorem tile_tags (g : Grid) (places : ℕ) : ∃ pattern path,
    (Canvas.tile g places).tags = [pattern, path, ⟨.closing, "pattern", []⟩] ∧
      IsTile (Decimal.fixed g.step places) pattern path := by
  refine ⟨_, _, rfl, rfl, rfl, rfl, rfl, rfl, ?_⟩
  exact congrArg (· :: []) (words_tilePath g.step places)

theorem filter_opensPattern_shapes {ss : List Shape} {ts : List Tag}
    (h : List.Forall₂ Shape.IsTag ss ts) : ts.filter OpensPattern = [] := by
  induction h with
  | nil => rfl
  | cons hFirst _ ih =>
    have hNot : ¬OpensPattern _ := fun hOpens => by
      cases hFirst.kind.symm.trans hOpens.1
    rw [List.filter_cons_of_neg (by simpa using hNot), ih]

theorem frame_tags (options : Options) (hGrid : p.grid = some g) : ∃ before after,
    Element.tagsAll (frame p options) =
      before ++ (Canvas.tile g options.precision).tags ++ after ∧
      before.filter OpensPattern = [] ∧ after.filter OpensPattern = [] := by
  rw [frame, hGrid]
  exact ⟨[_, _], [_, _, _, _], rfl, rfl, rfl⟩

theorem document_tags (h : (document library p options).2 = .ok d) (hGrid : p.grid = some g)
    (hColors : ∀ color ∈ p.colors, IsColor color) : ∃ before after,
      d.tags = before ++ (Canvas.tile g options.precision).tags ++ after ∧
      before.filter OpensPattern = [] ∧ after.filter OpensPattern = [] := by
  obtain ⟨es, hDraws, rfl⟩ := document_root h
  obtain ⟨before, after, hFrame, hBefore, hAfter⟩ := frame_tags options hGrid
  have hShapes := filter_opensPattern_shapes
    (tags_of_draws hDraws (Program.forall_color? hColors))
  refine ⟨(if options.xmlDeclaration then [Markup.declarationTag] else []) ++
    ⟨.opening, "svg", rootAttributes p options⟩ :: before,
    after ++ (Element.tagsAll es ++ [⟨.closing, "svg", []⟩]), ?_, ?_, ?_⟩
  · rw [Markup.Document.tags, Element.tags, tagsAll_append, hFrame]
    simp only [List.append_assoc, List.cons_append]
  · rw [List.filter_append, List.filter_cons_of_neg (by simp [OpensPattern]), hBefore,
      List.append_nil]
    split <;> rfl
  · rw [List.filter_append, List.filter_append, hAfter, hShapes]
    rfl

/-- A drawing with a grid has one pattern, the tile of its grid. -/
theorem document_tile (h : (document library p options).2 = .ok d) (hGrid : p.grid = some g)
    (hColors : ∀ color ∈ p.colors, IsColor color) :
    ∃ pattern path, IsTile (Decimal.fixed g.step options.precision) pattern path ∧
      d.tags.filter OpensPattern = [pattern] ∧ [pattern, path] <:+: d.tags := by
  obtain ⟨pattern, path, hTags, hTile⟩ := tile_tags g options.precision
  obtain ⟨before, after, hDocument, hBefore, hAfter⟩ := document_tags h hGrid hColors
  have hPattern : [pattern, path, ⟨.closing, "pattern", []⟩].filter OpensPattern = [pattern] := by
    simp [OpensPattern, hTile.kind, hTile.name, hTile.pathName]
  rw [hTags] at hDocument
  refine ⟨pattern, path, hTile, ?_, before, ⟨.closing, "pattern", []⟩ :: after, ?_⟩
  · rw [hDocument, List.filter_append, List.filter_append, hBefore, hPattern, hAfter]
    rfl
  · simp [hDocument]

end Drawing

namespace Compilation

open Drawing (IsTile OpensPattern)
open Markup (Tag)

variable {library : Expression.Library} {source text : String} {options : Options} {p : Program}
  {g : Grid}

theorem exists_tile (hDocument : (document library source options).2 = .ok text)
    (hProgram : (program source).2 = .ok p) (hGrid : p.grid = some g) :
    ∃ tags pattern path, Markup.Reader.read text.toList = some tags ∧
      tags.filter OpensPattern = [pattern] ∧ [pattern, path] <:+: tags ∧
      IsTile (Decimal.fixed g.step options.precision) pattern path := by
  have hRender : (Drawing.render library p options).2 = .ok text := by
    obtain ⟨q, hQ, hRender⟩ :=
      (document_eq_ok_iff (not_isEmpty_of_program hProgram)).mp hDocument
    cases hProgram.symm.trans hQ
    exact hRender
  obtain ⟨tokens, hTokens, hBuild⟩ := program_eq_ok_iff.mp hProgram
  have hSound := Grammar.sound_of_tokenize hTokens hBuild
  obtain ⟨d, hDrawn, rfl⟩ := Drawing.exists_document_of_render hRender
  obtain ⟨pattern, path, hTile, hOne, hPair⟩ := Drawing.document_tile hDrawn hGrid hSound.colors
  have hRead := Markup.Reader.read_text d (Drawing.document_plain hDrawn hSound.colors)
  refine ⟨d.tags, pattern, path, ?_, hOne, hPair, hTile⟩
  rwa [String.toList_ofList]

theorem step_positive (hProgram : (program source).2 = .ok p) (hGrid : p.grid = some g) :
    Binary64.lt 0 g.step := by
  obtain ⟨tokens, hTokens, hBuild⟩ := program_eq_ok_iff.mp hProgram
  exact ((Grammar.sound_of_tokenize hTokens hBuild).grid g hGrid).2.2

/-- The document of a source with a grid has one tile, a square. The step is positive, and the side
denotes the step rounded to the places if the step is finite. So the side denotes a positive number
just if the step is finite and more than half a unit of the last place. -/
theorem tile_positive_iff (hDocument : (document library source options).2 = .ok text)
    (hProgram : (program source).2 = .ok p) (hGrid : p.grid = some g) :
    ∃ (tags : List Tag) (pattern path : Tag) (side : List Char),
      Markup.Reader.read text.toList = some tags ∧
      tags.filter OpensPattern = [pattern] ∧ [pattern, path] <:+: tags ∧
      IsTile side pattern path ∧ Binary64.lt 0 g.step ∧
      (∀ r, Decimal.number? side = some r ↔
        g.step.isFinite ∧ IsRounded options.precision g.step.value r) ∧
      ((∃ r, Decimal.number? side = some r ∧ 0 < r) ↔
        g.step.isFinite ∧ 1 / 2 < g.step.value * 10 ^ options.precision) := by
  obtain ⟨tags, pattern, path, hRead, hOne, hPair, hTile⟩ := exists_tile hDocument hProgram hGrid
  exact ⟨tags, pattern, path, _, hRead, hOne, hPair, hTile, step_positive hProgram hGrid,
    fun _ => Decimal.number?_fixed_eq_some_iff, Decimal.fixed_denotes_pos_iff⟩

/-- A grid with a step of a ten-thousandth. -/
def fineGrid : String :=
  "#define x max 1 #end #root axes x, x box 0 0 9 9 #end #grid step .0001 #end"

def fineGridTokens : List Token :=
  [⟨1, .define, "define"⟩, ⟨1, .newIdentifier, "x"⟩, ⟨1, .keyword, "max"⟩, ⟨1, .integer, "1"⟩,
    ⟨1, .declaration, "end"⟩, ⟨1, .declaration, "root"⟩, ⟨1, .keyword, "axes"⟩,
    ⟨1, .variable, "x"⟩, ⟨1, .comma, ","⟩, ⟨1, .variable, "x"⟩, ⟨1, .keyword, "box"⟩,
    ⟨1, .integer, "0"⟩, ⟨1, .integer, "0"⟩, ⟨1, .integer, "9"⟩, ⟨1, .integer, "9"⟩,
    ⟨1, .declaration, "end"⟩, ⟨1, .declaration, "grid"⟩, ⟨1, .keyword, "step"⟩,
    ⟨1, .float, ".0001"⟩, ⟨1, .declaration, "end"⟩]

theorem exists_document_fineGrid (library : Expression.Library) (options : Options) : ∃ text p g,
    (document library fineGrid options).2 = .ok text ∧ (program fineGrid).2 = .ok p ∧
      p.grid = some g ∧ g.step = .ofRatio false 1 10000 := by
  have hTokens : Lexer.tokenize fineGrid = .ok fineGridTokens := by cbv
  have hParts : (Builder.buildChecked fineGridTokens).toOption.map
      (fun p => (p.grid.map Grid.step, p.shapes)) =
        some (some (.ofRatio false 1 10000), []) := by
    decide +kernel
  obtain ⟨p, hBuild, hParts⟩ := Grammar.exists_ok_of_toOption hParts
  obtain ⟨hGrid, hShapes⟩ := Prod.mk.inj hParts
  obtain ⟨g, hGrid, hStep⟩ := Option.map_eq_some_iff.mp hGrid
  have hProgram : (program fineGrid).2 = .ok p := program_eq_ok_iff.mpr ⟨_, hTokens, hBuild⟩
  obtain ⟨text, hRender⟩ : ∃ text, (Drawing.render library p options).2 = .ok text := by
    simp [Drawing.render, Drawing.document, Drawing.shapes, hShapes, Except.map]
  exact ⟨text, p, g, (document_eq_ok_iff rfl).mpr ⟨p, hProgram, hRender⟩, hProgram, hGrid, hStep⟩

/-- Four places are enough for a step of a ten-thousandth. -/
theorem tile_positive_iff_fourPlaces : ∃ (text : String) (tags : List Tag) (pattern path : Tag)
    (side : List Char),
      (document .identity fineGrid { precision := 4 }).2 = .ok text ∧
      Markup.Reader.read text.toList = some tags ∧ tags.filter OpensPattern = [pattern] ∧
      IsTile side pattern path ∧ ∃ r, Decimal.number? side = some r ∧ 0 < r := by
  obtain ⟨text, p, g, hDocument, hProgram, hGrid, hStep⟩ :=
    exists_document_fineGrid .identity { precision := 4 }
  have hText : Decimal.fixed (.ofRatio false 1 10000) 4 = ['0', '.', '0', '0', '0', '1'] := by
    decide +kernel
  have hRead : Decimal.number? ['0', '.', '0', '0', '0', '1'] = some (1 / 10 ^ 4) := by
    decide +kernel
  have hSide : ∃ r, Decimal.number? (Decimal.fixed (.ofRatio false 1 10000) 4) = some r ∧ 0 < r :=
    ⟨1 / 10 ^ 4, hText ▸ hRead, by norm_num⟩
  obtain ⟨tags, pattern, path, side, hRead, hOne, -, hTile, -, -, hPositive⟩ :=
    tile_positive_iff hDocument hProgram hGrid
  rw [hStep] at hPositive
  exact ⟨text, tags, pattern, path, side, hDocument, hRead, hOne, hTile,
    hPositive.mpr (Decimal.fixed_denotes_pos_iff.mp hSide)⟩

/-- At three places the same step is positive, and the sides of its tile are zero. -/
theorem tile_vanishes_threePlaces : ∃ (text : String) (p : Program) (g : Grid) (tags : List Tag)
    (pattern path : Tag), (document .identity fineGrid {}).2 = .ok text ∧
      (program fineGrid).2 = .ok p ∧ p.grid = some g ∧ Binary64.lt 0 g.step ∧
      Markup.Reader.read text.toList = some tags ∧ tags.filter OpensPattern = [pattern] ∧
      IsTile ['0'] pattern path := by
  obtain ⟨text, p, g, hDocument, hProgram, hGrid, hStep⟩ := exists_document_fineGrid .identity {}
  have hText : Decimal.fixed (.ofRatio false 1 10000) 3 = ['0'] := by decide +kernel
  obtain ⟨tags, pattern, path, hRead, hOne, -, hTile⟩ := exists_tile hDocument hProgram hGrid
  rw [hStep, hText] at hTile
  exact ⟨text, p, g, tags, pattern, path, hDocument, hProgram, hGrid,
    step_positive hProgram hGrid, hRead, hOne, hTile⟩

end Compilation

end PlotLang
