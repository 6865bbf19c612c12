import PlotLang.Proofs.DefiningLine
import PlotLang.Proofs.Likeness
import PlotLang.Proofs.XmlCharacters

/-! # A definition put before a program

A new name is no concern of a program that does not use it. With a definition of the name on a line
of its own before it, a source is checked and built as it was before, and drawn to the same document
or refused with the same error, told of the next line.
-/

namespace PlotLang

open Text (isLetter)

/-! ## One line further down -/

def Diagnostic.down (d : Diagnostic) : Diagnostic := { d with line := d.line.map (· + 1) }

def Structure.Error.down : Structure.Error → Structure.Error
  | .unclosed opener => .unclosed opener.down
  | .repeatedRoot second => .repeatedRoot second.down
  | .missingRoot => .missingRoot

/-- No token of the list has the name. -/
def Avoids (name : String) (ts : List Token) : Prop := ∀ t ∈ ts, t.IsName → t.text ≠ name

/-! ## Checking -/

namespace Structure

variable {ts : List Token} {name : String}

theorem afterLastEnd_map_down (ts : List Token) :
    afterLastEnd (ts.map Token.down) = (afterLastEnd ts).map Token.down := by
  rw [afterLastEnd, ← List.map_reverse, List.takeWhile_map, ← List.map_reverse]
  rfl

theorem check_map_down (ts : List Token) :
    check (ts.map Token.down) = (check ts).mapError Error.down := by
  have hOpens : Token.opensBlock ∘ Token.down = Token.opensBlock := rfl
  have hRoot : Token.isRoot ∘ Token.down = Token.isRoot := rfl
  rw [check, check, afterLastEnd_map_down, List.find?_map, List.filter_map, hOpens, hRoot]
  cases (afterLastEnd ts).find? Token.opensBlock with
  | some opener => rfl
  | none => rcases ts.filter Token.isRoot with _ | ⟨first, _ | ⟨second, others⟩⟩ <;> rfl

theorem check_definingTokens (name : String) (ts : List Token) :
    check (definingTokens name ++ ts) = check ts := by
  have hEnd : afterLastEnd (definingTokens name ++ ts) = afterLastEnd ts :=
    Grammar.afterLastEnd_append ((definingTokens name).take 4) rfl
  rw [check, check, hEnd, List.filter_append]
  rfl

end Structure

/-! ## Building -/

/-- Tokens one line further down that do not have the name of the definition met before them. -/
def Likeness.below (d : Definition) : Likeness where
  token t t' := t' = t.down ∧ (t.IsName → t.text ≠ d.identifier)
  name a a' := a' = a ∧ a ≠ d.identifier
  front := [d]
  kind_eq := by
    rintro t _ ⟨rfl, -⟩
    rfl
  text_eq := by
    rintro t _ ⟨rfl, -⟩ -
    rfl
  names := by
    rintro t _ ⟨rfl, hOther⟩ hName
    exact ⟨rfl, hOther hName⟩
  name_eq_iff := by
    rintro a _ b _ ⟨rfl, -⟩ ⟨rfl, -⟩
    rfl
  front_ne := by
    rintro a _ e ⟨rfl, hOther⟩ hFront
    rw [List.mem_singleton.mp hFront]
    exact hOther.symm

namespace Grammar

open Builder

variable {ts : List Token} {name : String}

theorem exists_block_definingTokens (name : String) :
    ∃ d, d.identifier = name ∧ Block [] (definingTokens name) (.definition d) := by
  obtain ⟨x, hNumber⟩ : ∃ x, number? ⟨1, .integer, "1"⟩ = some x :=
    Option.isSome_iff_exists.mp (by decide +kernel)
  have hMaximum : Field.maximum.Denotes [] [⟨1, .integer, "1"⟩] x :=
    ⟨_, ⟨_, by decide, rfl, rfl⟩, by simp [Field.Means, hNumber]⟩
  have hOpens := @Form.Opens.definition ⟨1, .define, "define"⟩ ⟨1, .newIdentifier, name⟩ rfl rfl
  exact ⟨⟨name, none, 0, x⟩, rfl, .definition name, _, _, _, [⟨.maximum, x⟩], rfl, hOpens,
    .field rfl rfl hMaximum (.close rfl), rfl⟩

theorem build_below (hOther : Avoids name ts) : ∃ d, (Likeness.below d).ResultAlike (build ts)
    (build (definingTokens name ++ ts.map Token.down)) := by
  obtain ⟨d, rfl, hBlock⟩ := exists_block_definingTokens name
  have hTokens : (Likeness.below d).TokensAlike ts (ts.map Token.down) :=
    List.forall₂_map_right_iff.mpr (List.forall₂_same.mpr fun t hMem => ⟨rfl, hOther t hMem⟩)
  have hFirst : (Likeness.below d).DraftAlike {} (add {} (.definition d)) :=
    ⟨⟨[], rfl, .nil⟩, .none, rfl, rfl⟩
  refine ⟨d, ?_⟩
  -- When the added block has been read, both walks are at the same tokens but for the lines.
  rw [build_eq_program, build_eq_program, walk_of_block {} hBlock nofun, List.length_map]
  exact (Likeness.walk_alike ts.length hFirst hTokens).program

end Grammar

/-! ## Whole sources -/

/-- What class of error a failure is reported as. A failure that is no diagnostic is in a class of
its own. -/
inductive ErrorClass where
  | lexical
  | structural
  | building
  | evaluation
  | unreadable (text : String)
  | escaped (fault : Curve.Fault)

def Failure.errorClass : Failure → ErrorClass
  | .scanning _ => .lexical
  | .building (.malformed _) => .structural
  | .building (.unreadableNumber text) => .unreadable text
  | .building _ => .building
  | .drawing (.function (.diagnosed _ _)) => .evaluation
  | .drawing fault => .escaped fault

/-- The same error, told of the next line. -/
structure Failure.Lowered (failure lower : Failure) : Prop where
  errorClass : lower.errorClass = failure.errorClass
  diagnostic? : lower.diagnostic? = failure.diagnostic?.map Diagnostic.down

variable {fault fault' : Builder.Fault}

theorem lowered_of_faultAlike {d : Definition} (h : (Likeness.below d).FaultAlike fault fault') :
    (Failure.building fault).Lowered (.building fault') := by
  cases h with
  | unreadableNumber text => exact ⟨rfl, rfl⟩
  | missingMaximum hName hToken =>
    obtain ⟨rfl, -⟩ := hName
    obtain ⟨rfl, -⟩ := hToken
    exact ⟨rfl, rfl⟩
  | invalidColor hKeyword hToken =>
    obtain ⟨rfl, -⟩ := hKeyword
    obtain ⟨rfl, -⟩ := hToken
    exact ⟨rfl, rfl⟩
  | missingRoot => exact ⟨rfl, rfl⟩
  -- Every other fault tells of one token.
  | _ =>
    rename_i hToken
    obtain ⟨rfl, -⟩ := hToken
    exact ⟨rfl, rfl⟩

/-- An error of the evaluation is told of no line. -/
theorem lowered_drawing (fault : Curve.Fault) :
    (Failure.drawing fault).Lowered (.drawing fault) := by
  cases fault with
  | function failure => cases failure <;> exact ⟨rfl, rfl⟩
  | infiniteWidth | undefinedWidth => exact ⟨rfl, rfl⟩

theorem lowered_of_down (error : Structure.Error) :
    (Failure.building (.malformed error)).Lowered (.building (.malformed error.down)) := by
  cases error <;> exact ⟨rfl, rfl⟩

namespace Grammar

open Builder

variable {ts : List Token} {name : String} {p : Program} {fault : Fault}

theorem exists_buildChecked_ok (hOther : Avoids name ts) (h : buildChecked ts = .ok p) :
    ∃ L p', Likeness.ProgramAlike L p p' ∧
      buildChecked (definingTokens name ++ ts.map Token.down) = .ok p' := by
  obtain ⟨hCheck, hBuild⟩ := buildChecked_eq_ok_iff.mp h
  have hLower : Structure.check (definingTokens name ++ ts.map Token.down) = .ok () := by
    rw [Structure.check_definingTokens, Structure.check_map_down, hCheck]
    rfl
  obtain ⟨d, hAlike⟩ := build_below hOther
  rw [hBuild] at hAlike
  generalize hBuilt : build (definingTokens name ++ ts.map Token.down) = result at hAlike
  cases hAlike with
  | ok hAlike => exact ⟨_, _, hAlike, buildChecked_eq_ok_iff.mpr ⟨hLower, hBuilt⟩⟩

theorem exists_buildChecked_error (hOther : Avoids name ts)
    (h : buildChecked ts = .error fault) :
    ∃ fault', (Failure.building fault).Lowered (.building fault') ∧
      buildChecked (definingTokens name ++ ts.map Token.down) = .error fault' := by
  have hLower : Structure.check (definingTokens name ++ ts.map Token.down) =
      (Structure.check ts).mapError Structure.Error.down := by
    rw [Structure.check_definingTokens, Structure.check_map_down]
  obtain ⟨error, hCheck, rfl⟩ | ⟨hCheck, hBuild⟩ := buildChecked_eq_error_iff.mp h
  · rw [hCheck] at hLower
    exact ⟨_, lowered_of_down error, buildChecked_eq_error_iff.mpr (.inl ⟨_, hLower, rfl⟩)⟩
  · rw [hCheck] at hLower
    obtain ⟨d, hAlike⟩ := build_below hOther
    rw [hBuild] at hAlike
    generalize hBuilt : build (definingTokens name ++ ts.map Token.down) = result at hAlike
    cases hAlike with
    | error hFault =>
      exact ⟨_, lowered_of_faultAlike hFault,
        buildChecked_eq_error_iff.mpr (.inr ⟨hLower, hBuilt⟩)⟩

end Grammar

namespace Lexer

variable {source name : String}

theorem avoids_of_notMem_words {final : State} (h : name ∉ words (final, none)) :
    Avoids name final.tokens.toList := by
  rintro t hMem hKind rfl
  refine h (List.mem_append_left _ (List.mem_map_of_mem (List.mem_filter.mpr ⟨hMem, ?_⟩)))
  obtain hKind | hKind := hKind <;> simp [hKind]

theorem tokenize_definingLine (hName : name ≠ "") (hLetters : ∀ c ∈ name.toList, isLetter c)
    (hKeyword : name ∉ Vocabulary.keywords) (hNew : name ∉ words (scan source)) :
    (∀ ts, tokenize source = .ok ts →
      tokenize (definingLine name ++ source) = .ok (definingTokens name ++ ts.map Token.down) ∧
        Avoids name ts) ∧
    ∀ error, tokenize source = .error error →
      tokenize (definingLine name ++ source) = .error error.down := by
  have hScan := scan_definingLine hName hLetters hKeyword hNew
  unfold Carries at hScan
  rw [tokenize, tokenize, hScan]
  generalize scan source = result at hNew
  obtain ⟨final, _ | error⟩ := result
  · constructor
    · rintro _ ⟨⟩
      refine ⟨?_, avoids_of_notMem_words hNew⟩
      simp [State.preceded]
    · rintro _ ⟨⟩
  · constructor
    · rintro _ ⟨⟩
    · rintro _ ⟨⟩
      rfl

end Lexer

namespace Compilation

variable {source name : String}

theorem program_definingLine (hName : name ≠ "") (hLetters : ∀ c ∈ name.toList, isLetter c)
    (hKeyword : name ∉ Vocabulary.keywords) (hNew : name ∉ Lexer.words (Lexer.scan source)) :
    (∀ p, (program source).2 = .ok p → ∃ L p', Likeness.ProgramAlike L p p' ∧
      (program (definingLine name ++ source)).2 = .ok p') ∧
    ∀ failure, (program source).2 = .error failure → ∃ lower, failure.Lowered lower ∧
      (program (definingLine name ++ source)).2 = .error lower := by
  obtain ⟨hTokens, hError⟩ := Lexer.tokenize_definingLine hName hLetters hKeyword hNew
  refine ⟨fun p hProgram => ?_, fun failure hProgram => ?_⟩
  · obtain ⟨ts, hScan, hBuild⟩ := program_eq_ok_iff.mp hProgram
    obtain ⟨hLower, hOther⟩ := hTokens ts hScan
    obtain ⟨L, p', hAlike, hBuilt⟩ := Grammar.exists_buildChecked_ok hOther hBuild
    exact ⟨L, p', hAlike, program_eq_ok_iff.mpr ⟨_, hLower, hBuilt⟩⟩
  · obtain ⟨error, hScan, rfl⟩ | ⟨ts, fault, hScan, hBuild, rfl⟩ :=
      program_eq_error_iff.mp hProgram
    · exact ⟨.scanning error.down, ⟨rfl, rfl⟩,
        program_eq_error_iff.mpr (.inl ⟨_, hError error hScan, rfl⟩)⟩
    · obtain ⟨hLower, hOther⟩ := hTokens ts hScan
      obtain ⟨fault', hLowered, hBuilt⟩ := Grammar.exists_buildChecked_error hOther hBuild
      exact ⟨_, hLowered, program_eq_error_iff.mpr (.inr ⟨_, _, hLower, hBuilt, rfl⟩)⟩

theorem isEmpty_definingLine (name source : String) :
    (definingLine name ++ source).isEmpty = false := by
  refine Bool.eq_false_iff.mpr fun hEmpty => ?_
  have hChars := congrArg String.toList (String.isEmpty_iff.mp hEmpty)
  simp [definingLine] at hChars

/-- A definition of a new name, on a line of its own before a source, changes neither the document
of the source nor the error it is refused with, but for the line. -/
theorem document_definingLine_append {library : Expression.Library} {options : Options}
    (hSource : source ≠ "") (hName : name ≠ "")
    (hLetters : ∀ c ∈ name.toList, isLetter c) (hKeyword : name ∉ Vocabulary.keywords)
    (hNew : name ∉ Lexer.words (Lexer.scan source)) :
    (∀ text, (document library source options).2 = .ok text →
      (document library (definingLine name ++ source) options).2 = .ok text) ∧
    ∀ failure, (document library source options).2 = .error failure → ∃ lower,
      failure.Lowered lower ∧
        (document library (definingLine name ++ source) options).2 = .error lower := by
  have hSome : source.isEmpty = false := by simpa using hSource
  have hLonger := isEmpty_definingLine name source
  obtain ⟨hProgram, hError⟩ := program_definingLine hName hLetters hKeyword hNew
  refine ⟨fun text hDocument => ?_, fun failure hDocument => ?_⟩
  · obtain ⟨p, hBuilt, hDrawn⟩ := (document_eq_ok_iff hSome).mp hDocument
    obtain ⟨L, p', hAlike, hBuilt'⟩ := hProgram p hBuilt
    rw [← hAlike.render_eq] at hDrawn
    exact (document_eq_ok_iff hLonger).mpr ⟨p', hBuilt', hDrawn⟩
  · obtain hFailed | ⟨p, fault, hBuilt, hDrawn, rfl⟩ := (document_eq_error_iff hSome).mp hDocument
    · obtain ⟨lower, hLowered, hLower⟩ := hError failure hFailed
      exact ⟨lower, hLowered, (document_eq_error_iff hLonger).mpr (.inl hLower)⟩
    · obtain ⟨L, p', hAlike, hBuilt'⟩ := hProgram p hBuilt
      rw [← hAlike.render_eq] at hDrawn
      exact ⟨.drawing fault, lowered_drawing fault,
        (document_eq_error_iff hLonger).mpr (.inr ⟨p', fault, hBuilt', hDrawn, rfl⟩)⟩

/-- A root whose color has two digits. -/
def shortColor : String :=
  "#define x max 2 #end\n#root axes x, x box 0 0 9 9 color 0x12 #end"

def shortColorTokens : List Token :=
  [⟨1, .define, "define"⟩, ⟨1, .newIdentifier, "x"⟩, ⟨1, .keyword, "max"⟩, ⟨1, .integer, "2"⟩,
    ⟨1, .declaration, "end"⟩, ⟨2, .declaration, "root"⟩, ⟨2, .keyword, "axes"⟩,
    ⟨2, .variable, "x"⟩, ⟨2, .comma, ","⟩, ⟨2, .variable, "x"⟩, ⟨2, .keyword, "box"⟩,
    ⟨2, .integer, "0"⟩, ⟨2, .integer, "0"⟩, ⟨2, .integer, "9"⟩, ⟨2, .integer, "9"⟩,
    ⟨2, .keyword, "color"⟩, ⟨2, .hexColor, "12"⟩, ⟨2, .declaration, "end"⟩]

theorem document_definingLine_append_shortColor : ∃ lower,
    (document .identity (definingLine "y" ++ shortColor) {}).2 = .error lower ∧
      lower.errorClass = .building ∧ lower.diagnostic? =
        some ⟨"Invalid color '0x12' after 'color'", some 3,
          some "Write colors as 0xRGB or 0xRRGGBB"⟩ := by
  have hTokens : Lexer.tokenize shortColor = .ok shortColorTokens := by cbv
  have hBuild : Builder.buildChecked shortColorTokens =
      .error (.invalidColor ⟨2, .keyword, "color"⟩ ⟨2, .hexColor, "12"⟩) := by
    decide +kernel
  have hDocument : (document .identity shortColor {}).2 =
      .error (.building (.invalidColor ⟨2, .keyword, "color"⟩ ⟨2, .hexColor, "12"⟩)) :=
    (document_eq_error_iff (by decide)).mpr
      (.inl (program_eq_error_iff.mpr (.inr ⟨_, _, hTokens, hBuild, rfl⟩)))
  have hLetters : ∀ c ∈ "y".toList, isLetter c := List.forall_mem_singleton.mpr rfl
  have hNew : "y" ∉ Lexer.words (Lexer.scan shortColor) := by decide +kernel
  obtain ⟨lower, ⟨hClass, hDiagnostic⟩, hLower⟩ :=
    (document_definingLine_append (by decide) (by decide) hLetters (by decide) hNew).2 _ hDocument
  exact ⟨lower, hLower, hClass, hDiagnostic⟩

end Compilation

end PlotLang
