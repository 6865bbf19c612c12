import Mathlib.Logic.Equiv.Basic
import PlotLang.Proofs.AddedDefinition

/-! # Names are only names

Names are compared with one another and with nothing else. So a list of tokens whose names are
exchanged for others, different ones for different ones, is built to the program with its names
exchanged, which is drawn to the same document, or refused with the same class of error and the same
line. This holds also where a name is defined again, or is spelt like a keyword.
-/

namespace PlotLang

instance : DecidablePred Token.IsName := fun t =>
  inferInstanceAs (Decidable (t.kind = .newIdentifier ∨ t.kind = .variable))

/-! ## Other names -/

def Token.rename (r : String → String) (t : Token) : Token :=
  if t.IsName then { t with text := r t.text } else t

def Definition.rename (r : String → String) (d : Definition) : Definition :=
  { d with identifier := r d.identifier }

def Root.rename (r : String → String) (root : Root) : Root :=
  { root with xAxis := root.xAxis.rename r, yAxis := root.yAxis.rename r }

def Program.rename (r : String → String) (p : Program) : Program :=
  { p with definitions := p.definitions.map (Definition.rename r), root := p.root.rename r }

/-- Whom and what a refusal blames, but for its wording. -/
def Builder.Fault.blamed (fault : Builder.Fault) : ErrorClass × Option Int :=
  ((Failure.building fault).errorClass, fault.diagnostic.line)

variable {r : String → String} {t : Token} {ts : List Token} {d d' : Definition}
  {p p' : Program} {fault fault' : Builder.Fault}

theorem Token.rename_line (r : String → String) (t : Token) : (t.rename r).line = t.line := by
  unfold Token.rename
  split <;> rfl

theorem Token.rename_kind (r : String → String) (t : Token) : (t.rename r).kind = t.kind := by
  unfold Token.rename
  split <;> rfl

theorem Definition.rename_injective (hInjective : Function.Injective r) :
    Function.Injective (Definition.rename r) := by
  rintro ⟨identifier, name, minimum, maximum⟩ ⟨identifier', name', minimum', maximum'⟩ h
  simp only [Definition.rename, Definition.mk.injEq] at h ⊢
  exact ⟨hInjective h.1, h.2⟩

theorem Root.rename_injective (hInjective : Function.Injective r) :
    Function.Injective (Root.rename r) := by
  rintro ⟨box, color, background, xAxis, yAxis⟩ ⟨box', color', background', xAxis', yAxis'⟩ h
  simp only [Root.rename, Root.mk.injEq] at h ⊢
  obtain ⟨hBox, hColor, hBackground, hX, hY⟩ := h
  have hAxis := Definition.rename_injective hInjective
  exact ⟨hBox, hColor, hBackground, hAxis hX, hAxis hY⟩

theorem Program.rename_injective (hInjective : Function.Injective r) :
    Function.Injective (Program.rename r) := by
  rintro ⟨definitions, root, grid, shapes⟩ ⟨definitions', root', grid', shapes'⟩ h
  simp only [Program.rename, Program.mk.injEq] at h ⊢
  obtain ⟨hDefinitions, hRoot, hGrid, hShapes⟩ := h
  exact ⟨(Definition.rename_injective hInjective).list_map hDefinitions,
    Root.rename_injective hInjective hRoot, hGrid, hShapes⟩

namespace Likeness

/-- Tokens that are like others but for their names. -/
def renamed (hInjective : Function.Injective r) : Likeness where
  token t t' := t' = t.rename r
  name a a' := a' = r a
  front := []
  kind_eq := by
    rintro t _ rfl
    exact t.rename_kind r
  text_eq := by
    rintro t _ rfl hName
    rw [Token.rename, if_neg hName]
  names := by
    rintro t _ rfl hName
    rw [Token.rename, if_pos hName]
  name_eq_iff := by
    rintro a _ b _ rfl rfl
    exact hInjective.eq_iff
  front_ne := by
    rintro a _ d - hFront
    cases hFront

variable {hInjective : Function.Injective r}

theorem definitionAlike_renamed_iff :
    (renamed hInjective).DefinitionAlike d d' ↔ d' = d.rename r := by
  constructor
  · rintro ⟨hIdentifier, hName, hMinimum, hMaximum⟩
    cases d'
    simp only [Definition.rename, Definition.mk.injEq]
    exact ⟨hIdentifier, hName, hMinimum, hMaximum⟩
  · rintro rfl
    exact ⟨rfl, rfl, rfl, rfl⟩

theorem definitionsAlike_renamed_iff {defs defs' : List Definition} :
    (renamed hInjective).DefinitionsAlike defs defs' ↔ defs' = defs.map (Definition.rename r) := by
  have hAll : ∀ own, List.Forall₂ (renamed hInjective).DefinitionAlike defs own ↔
      own = defs.map (Definition.rename r) := by
    intro own
    have hSame : (renamed hInjective).DefinitionAlike = fun d d' => d.rename r = d' :=
      funext₂ fun d d' => propext (definitionAlike_renamed_iff.trans eq_comm)
    rw [hSame, ← List.forall₂_map_left_iff, List.forall₂_eq_eq_eq, eq_comm]
  constructor
  · rintro ⟨own, rfl, hOwn⟩
    exact (hAll _).mp hOwn
  · rintro rfl
    exact ⟨_, rfl, (hAll _).mpr rfl⟩

theorem programAlike_renamed_iff :
    (renamed hInjective).ProgramAlike p p' ↔ p' = p.rename r := by
  constructor
  · rintro ⟨hDefinitions, ⟨hBox, hColor, hBackground, hX, hY⟩, hGrid, hShapes⟩
    obtain ⟨definitions, ⟨box, color, background, xAxis, yAxis⟩, grid, shapes⟩ := p'
    simp only [Program.rename, Root.rename, Program.mk.injEq, Root.mk.injEq]
    exact ⟨definitionsAlike_renamed_iff.mp hDefinitions,
      ⟨hBox, hColor, hBackground, definitionAlike_renamed_iff.mp hX,
        definitionAlike_renamed_iff.mp hY⟩, hGrid, hShapes⟩
  · rintro rfl
    exact ⟨definitionsAlike_renamed_iff.mpr rfl,
      ⟨rfl, rfl, rfl, definitionAlike_renamed_iff.mpr rfl, definitionAlike_renamed_iff.mpr rfl⟩,
      rfl, rfl⟩

theorem blamed_eq_of_faultAlike (h : (renamed hInjective).FaultAlike fault fault') :
    fault'.blamed = fault.blamed := by
  have hLine : ∀ (c : ErrorClass) {t t' : Token}, (renamed hInjective).token t t' →
      (c, some t'.line) = (c, some t.line) := by
    rintro c t _ rfl
    rw [t.rename_line r]
  cases h with
  | unreadableNumber text => rfl
  | missingRoot => rfl
  | invalidColor _ hDigits => exact hLine _ hDigits
  | missingMaximum _ hOpener => exact hLine _ hOpener
  -- Every other fault tells of one token.
  | _ =>
    rename_i hToken
    exact hLine _ hToken

end Likeness

namespace Grammar

open Builder (build)

theorem build_renamed (hInjective : Function.Injective r) (ts : List Token) :
    (Likeness.renamed hInjective).ResultAlike (build ts) (build (ts.map (Token.rename r))) := by
  have hTokens : (Likeness.renamed hInjective).TokensAlike ts (ts.map (Token.rename r)) :=
    List.forall₂_map_right_iff.mpr (List.forall₂_same.mpr fun _ _ => rfl)
  have hEmpty : (Likeness.renamed hInjective).DraftAlike {} {} :=
    ⟨⟨[], rfl, .nil⟩, .none, rfl, rfl⟩
  rw [build_eq_program, build_eq_program, List.length_map]
  exact (Likeness.walk_alike ts.length hEmpty hTokens).program

/-- Tokens with other names in them are built to the program with the other names, and to no other
one; the two programs are drawn alike. If one list is refused so is the other, with an error of the
same class that tells of the same line. -/
theorem build_rename (hInjective : Function.Injective r) (ts : List Token) :
    (∀ p, build (ts.map (Token.rename r)) = .ok (p.rename r) ↔ build ts = .ok p) ∧
    (∀ library p options, Drawing.render library (Program.rename r p) options =
      Drawing.render library p options) ∧
    ∀ blamed, (∃ fault, build (ts.map (Token.rename r)) = .error fault ∧ fault.blamed = blamed) ↔
      ∃ fault, build ts = .error fault ∧ fault.blamed = blamed := by
  have hAlike := build_renamed hInjective ts
  generalize build ts = result at hAlike
  generalize build (ts.map (Token.rename r)) = result' at hAlike
  refine ⟨fun p => ?_, fun library p options => ?_, fun blamed => ?_⟩
  · cases hAlike with
    | ok hProgram =>
      obtain rfl := Likeness.programAlike_renamed_iff.mp hProgram
      simp only [Except.ok.injEq]
      exact (Program.rename_injective hInjective).eq_iff
    | error _ => simp
  · have hProgram : (Likeness.renamed hInjective).ProgramAlike p (p.rename r) :=
      Likeness.programAlike_renamed_iff.mpr rfl
    exact hProgram.render_eq library options
  · cases hAlike with
    | ok _ => simp
    | error hFault =>
      simp only [Except.error.injEq, exists_eq_left', Likeness.blamed_eq_of_faultAlike hFault]

/-- A name is defined twice, and the first definition counts. -/
def nameTwice : List Token :=
  [⟨1, .define, "define"⟩, ⟨1, .newIdentifier, "x"⟩, ⟨1, .keyword, "max"⟩, ⟨1, .integer, "1"⟩,
    ⟨1, .declaration, "end"⟩, ⟨2, .define, "define"⟩, ⟨2, .newIdentifier, "x"⟩,
    ⟨2, .keyword, "max"⟩, ⟨2, .integer, "2"⟩, ⟨2, .declaration, "end"⟩, ⟨3, .declaration, "root"⟩,
    ⟨3, .keyword, "axes"⟩, ⟨3, .variable, "x"⟩, ⟨3, .variable, "x"⟩, ⟨3, .keyword, "box"⟩,
    ⟨3, .integer, "0"⟩, ⟨3, .integer, "0"⟩, ⟨3, .integer, "9"⟩, ⟨3, .integer, "9"⟩,
    ⟨3, .declaration, "end"⟩]

/-- The other name is spelt like the keyword that stands beside it. -/
theorem build_rename_nameTwice : ∃ r : String → String, r "x" = "max" ∧ Function.Injective r ∧
    build (nameTwice.map (Token.rename r)) = .ok
      ⟨[⟨"max", none, 0, 1⟩, ⟨"max", none, 0, 2⟩],
        ⟨⟨0, 0, 9, 9⟩, "000000", "ffffff", ⟨"max", none, 0, 1⟩, ⟨"max", none, 0, 1⟩⟩,
        none, []⟩ := by
  have hBuild : build nameTwice = .ok
      ⟨[⟨"x", none, 0, 1⟩, ⟨"x", none, 0, 2⟩],
        ⟨⟨0, 0, 9, 9⟩, "000000", "ffffff", ⟨"x", none, 0, 1⟩, ⟨"x", none, 0, 1⟩⟩, none, []⟩ := by
    decide +kernel
  have hInjective := (Equiv.swap "x" "max").injective
  exact ⟨_, Equiv.swap_apply_left "x" "max", hInjective,
    ((build_rename hInjective nameTwice).1 _).mpr hBuild⟩

end Grammar

end PlotLang
