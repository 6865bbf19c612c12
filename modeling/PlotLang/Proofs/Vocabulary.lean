import PlotLang.Proofs.Invariants

/-! # The vocabulary of a scan

A word means what the names defined before it make of it. So the tokens found so far tell which
names are defined, at every moment of a scan and also at the one where a fault stops it: only the
marker of the definition that failed may then be left without its name.
-/

namespace PlotLang.Lexer

open Text

/-- The texts of each kind of token, whatever stands before it. -/
def Spells : Token.Kind → String → Prop
  | .string, _ => True
  | .integer, text => text ≠ "" ∧ text.toList.all isDigit
  | .float, text => ∃ whole fraction : List Char, text.toList = whole ++ '.' :: fraction ∧
      (whole ++ fraction).all isDigit ∧ whole ++ fraction ≠ []
  | .hexColor, text => text.toList.all isHexDigit
  | .comma, text => text = ","
  | .keyword, text => text ∈ Vocabulary.keywords
  | .declaration, text => text ∈ ["root", "grid", "include", "end"]
  | .shapeFunction, text => text ∈ ["line", "graph", "point"]
  | .newIdentifier, text | .variable, text => text ≠ "" ∧ text.toList.all isLetter
  | .define, text => text = "define"

/-- A token between those `before` and `after` it. After a failed scan the last marker may lack its
name. -/
structure InVocabulary (before : List Token) (t : Token) (after : List Token) (failed : Prop) :
    Prop where
  spelt : Spells t.kind t.text
  defined : t.kind = .variable → t.text ∈ names before
  free : t.kind = .keyword → t.text ∉ names before
  announced : t.kind = .newIdentifier →
    ∃ earlier marker, before = earlier ++ [marker] ∧ marker.kind = .define
  named : t.kind = .define →
    (∃ name rest, after = name :: rest ∧ name.kind = .newIdentifier) ∨ after = [] ∧ failed

variable {ts before after : List Token} {t : Token} {text : String}

/-- A dot among digits stands between two runs of them, one of which is not empty. -/
theorem dotted_of_count_eq_one {cs : List Char} (hAll : cs.all isNumberPart)
    (hCount : cs.count '.' = 1) (hDot : cs ≠ ['.']) :
    ∃ whole fraction : List Char, cs = whole ++ '.' :: fraction ∧
      (whole ++ fraction).all isDigit ∧ whole ++ fraction ≠ [] := by
  obtain hDigits | ⟨whole, fraction, rfl, hWhole, hFraction⟩ :=
    Literal.digits_or_dotted hAll (Nat.le_of_eq hCount)
  · have hMem : '.' ∈ cs := List.count_pos_iff.mp (by omega)
    cases List.all_eq_true.mp hDigits '.' hMem
  · refine ⟨whole, fraction, rfl, by rw [List.all_append, hWhole, hFraction, Bool.and_self], ?_⟩
    intro hNil
    obtain ⟨rfl, rfl⟩ := List.append_eq_nil_iff.mp hNil
    exact hDot rfl

theorem mem_of_mem_declarations (h : text ∈ Vocabulary.declarations) (hDefine : text ≠ "define") :
    text ∈ ["root", "grid", "include", "end"] := by
  simp only [Vocabulary.declarations, List.mem_cons, hDefine, false_or] at h ⊢
  exact h

/-- A token's spelling after the tokens before it is one of its kind. A variable is spelt as the
name it repeats. -/
theorem Spelt.spells (h : Spelt before t) (hEmitted : Emitted before) : Spells t.kind t.text := by
  obtain ⟨line, kind, text⟩ := t
  cases kind with
  | string => trivial
  | integer | hexColor | comma | shapeFunction | define => exact h
  | float =>
    obtain ⟨hDot, hAll, hCount⟩ := h
    refine dotted_of_count_eq_one hAll hCount fun hEq => hDot ?_
    exact String.toList_inj.mp hEq
  | keyword => exact h.1
  | declaration => exact mem_of_mem_declarations h.1 h.2
  | newIdentifier => exact h.2
  | _ => exact Grammar.spelt_of_mem_names hEmitted h

theorem Emitted.of_append (h : Emitted ts) (hEq : ts = before ++ after) : Emitted before := by
  induction h generalizing after with
  | nil =>
    obtain ⟨rfl, -⟩ := List.append_eq_nil_iff.mp hEq.symm
    exact .nil
  | @snoc us u hUs hFollows ih =>
    obtain rfl | ⟨after, last, rfl⟩ := List.eq_nil_or_concat after
    · rw [List.append_nil] at hEq
      exact hEq ▸ hUs.snoc hFollows
    · rw [List.concat_eq_append, ← List.append_assoc] at hEq
      exact ih (List.append_singleton_inj.mp hEq).1

/-- Where a token of an emitted list stands. Unless it is the last one, what follows it says whether
it is a marker. -/
theorem Emitted.inVocabulary {failed : Prop} (h : Emitted (before ++ t :: after))
    (hLast : AwaitsName (before ++ t :: after) → failed) : InVocabulary before t after failed := by
  have hFollows := h.follows rfl
  have hSpelt := hFollows.spelt
  refine ⟨hSpelt.spells (h.of_append rfl), fun hKind => ?_, fun hKind => ?_, fun hKind => ?_,
    fun hKind => ?_⟩
  · rwa [Spelt, hKind] at hSpelt
  · rw [Spelt, hKind] at hSpelt
    exact hSpelt.2
  · obtain ⟨marker, hMarker, hDefine⟩ := hFollows.named.mp hKind
    obtain ⟨earlier, hBefore⟩ := List.getLast?_eq_some_iff.mp hMarker
    exact ⟨earlier, marker, hBefore, hDefine⟩
  · have hAwaits : AwaitsName (before ++ [t]) := awaitsName_snoc_iff.mpr hKind
    cases after with
    | nil => exact .inr ⟨rfl, hLast hAwaits⟩
    | cons name rest =>
      have hSplit : before ++ t :: name :: rest = (before ++ [t]) ++ name :: rest := by simp
      have hName : Follows (before ++ [t]) name := h.follows hSplit
      exact .inl ⟨name, rest, rfl, hName.named.mpr hAwaits⟩

/-- After any number of steps, and where a step fails, the names defined are those of the tokens,
each once and in their order, and each token agrees with those around it. -/
theorem run_vocabulary {source : String} {n : Nat} {s : State} {error : Option Error}
    (hRun : run n (State.start source) = (s, error)) :
    s.identifiers.toList = names s.tokens.toList ∧ s.identifiers.toList.Nodup ∧
      ∀ before t after, s.tokens.toList = before ++ t :: after →
        InVocabulary before t after (error ≠ none) := by
  have hKeeps := run_keeps (start_settled source) n
  rw [hRun] at hKeeps
  obtain ⟨hEmitted, hIdentifiers⟩ := hKeeps.faithful
  refine ⟨hIdentifiers, hIdentifiers ▸ hEmitted.nodup, fun before t after hTokens => ?_⟩
  have hLast : AwaitsName s.tokens.toList → error ≠ none :=
    fun hAwaits hNone => (hKeeps.settled hNone).settled hAwaits
  rw [hTokens] at hEmitted hLast
  exact hEmitted.inVocabulary hLast

/-- A name spelt like a keyword, used as a variable before a definition without a name. -/
def unnamedDefinition : String := "#define max .5 max #define"

theorem run_vocabulary_unnamedDefinition : ∃ s error,
    run 9 (State.start unnamedDefinition) = (s, error) ∧ s.identifiers.toList = ["max"] ∧
      ∃ before t after, s.tokens.toList = before ++ t :: after ∧ t.kind = .variable ∧
        InVocabulary before t after (error ≠ none) := by
  have hRun : run 9 (State.start unnamedDefinition) =
      (⟨[], 1, #[⟨1, .define, "define"⟩, ⟨1, .newIdentifier, "max"⟩, ⟨1, .float, ".5"⟩,
        ⟨1, .variable, "max"⟩, ⟨1, .define, "define"⟩], #["max"]⟩,
      some ⟨.missingIdentifier, 1⟩) := by
    cbv
  obtain ⟨-, -, hTokens⟩ := run_vocabulary hRun
  exact ⟨_, _, hRun, rfl, [⟨1, .define, "define"⟩, ⟨1, .newIdentifier, "max"⟩, ⟨1, .float, ".5"⟩],
    ⟨1, .variable, "max"⟩, [⟨1, .define, "define"⟩], rfl, rfl, hTokens _ _ _ rfl⟩

end PlotLang.Lexer
