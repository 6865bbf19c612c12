import PlotLang.Proofs.InertText

/-! # Scanning below a definition

A scan looks words up among the names defined so far and among the keywords. If a name is defined on
a line of its own before a source that never looks it up, every step over the source is done as it
is without the definition, one line further down.
-/

namespace PlotLang

open Text (dropWhile_run isLetter takeWhile_run)

def Token.down (t : Token) : Token := { t with line := t.line + 1 }

def Lexer.Error.down (e : Lexer.Error) : Lexer.Error := { e with line := e.line + 1 }

/-- The line of source that defines a name and nothing else. -/
def definingLine (name : String) : String := "#define " ++ name ++ " max 1 #end\n"

def definingTokens (name : String) : List Token :=
  [⟨1, .define, "define"⟩, ⟨1, .newIdentifier, name⟩, ⟨1, .keyword, "max"⟩, ⟨1, .integer, "1"⟩,
    ⟨1, .declaration, "end"⟩]

namespace Lexer

variable {s : State} {name source : String} {cs : List Char}

/-! ## Words -/

def Fault.word? : Fault → Option String
  | .unknownKeyword word | .duplicateIdentifier word => some word
  | _ => none

/-- The words that a scan has looked up: keywords, names where they are defined and where they are
used, and the word it has failed at. -/
def words (result : State × Option Error) : List String :=
  (result.1.tokens.toList.filter fun t =>
      t.kind ∈ [.keyword, .newIdentifier, .variable]).map Token.text ++
    (result.2.bind fun error => error.fault.word?).toList

theorem mem_words_emit (s : State) (text : List Char) {kind : Token.Kind}
    (hKind : kind ∈ [.keyword, .newIdentifier, .variable]) :
    String.ofList text ∈ words (s.emit kind text, none) := by
  refine List.mem_append_left _ (List.mem_map.mpr
    ⟨⟨s.line, kind, String.ofList text⟩, List.mem_filter.mpr ⟨?_, decide_eq_true hKind⟩, rfl⟩)
  rw [emit_tokens]
  exact List.mem_append_right _ (List.mem_singleton_self _)

theorem mem_words_readWord (s : State) :
    String.ofList (s.rest.takeWhile isLetter) ∈ words (readWord s) := by
  simp only [readWord]
  split
  · exact mem_words_emit _ _ (by decide)
  · split
    · exact mem_words_emit _ _ (by decide)
    · simp [words, State.fail, Fault.word?]

theorem mem_words_readIdentifier (h : s.rest.takeWhile isLetter ≠ []) :
    String.ofList (s.rest.takeWhile isLetter) ∈ words (readIdentifier s) := by
  simp only [readIdentifier]
  split
  · rename_i hEmpty
    exact absurd (List.isEmpty_iff.mp hEmpty) h
  · split
    · simp [words, State.fail, Fault.word?]
    · exact mem_words_emit _ _ (by decide)

theorem words_subset {next : State × Option Error}
    (h : s.tokens.toList <+: next.1.tokens.toList) : words (s, none) ⊆ words next := by
  obtain ⟨more, hMore⟩ := h
  intro word hMem
  simp only [words, ← hMore, List.filter_append, List.map_append, List.mem_append] at hMem ⊢
  exact .inl (.inl (by simpa using hMem))

/-! ## Steps below the definition -/

/-- The state of a scan that has come one line further and has met the definition of a name. -/
def State.preceded (s : State) (name : String) : State where
  rest := s.rest
  line := s.line + 1
  tokens := (definingTokens name).toArray ++ s.tokens.map Token.down
  identifiers := #[name] ++ s.identifiers

theorem preceded_emit (s : State) (name : String) (kind : Token.Kind) (text : List Char) :
    (s.preceded name).emit kind text = (s.emit kind text).preceded name := by
  simp [State.preceded, State.emit, Token.down]

theorem mem_preceded_identifiers {text : String} (h : text ≠ name) :
    text ∈ (s.preceded name).identifiers ↔ text ∈ s.identifiers := by
  simp [State.preceded, h]

/-- What is done from a state is done alike where the definition has gone before. -/
def Carries (name : String) (result preceded : State × Option Error) : Prop :=
  preceded = (result.1.preceded name, result.2.map Error.down)

theorem carries_emit (s : State) (name : String) (kind : Token.Kind) (text : List Char) :
    Carries name (s.emit kind text, none) ((s.preceded name).emit kind text, none) := by
  unfold Carries
  rw [preceded_emit]
  rfl

theorem readNumber_preceded (s : State) (name : String) :
    Carries name (readNumber s) (readNumber (s.preceded name)) := by
  have hRest : (s.preceded name).rest = s.rest := rfl
  unfold readNumber
  rw [hRest]
  dsimp only
  split
  · exact carries_emit (s.advanceTo _) name .integer _
  · split
    · rfl
    · exact carries_emit (s.advanceTo _) name .float _
  · rfl

theorem readShape_preceded (s : State) (name : String) (cs : List Char) :
    Carries name (readShape s cs) (readShape (s.preceded name) cs) := by
  unfold readShape
  dsimp only
  split
  · exact carries_emit (s.advanceTo _) name .shapeFunction _
  · rfl

theorem readWord_preceded (h : name ∉ words (readWord s)) :
    Carries name (readWord s) (readWord (s.preceded name)) := by
  have hRest : (s.preceded name).rest = s.rest := rfl
  have hKnown := mem_preceded_identifiers (s := s)
    (ne_of_mem_of_not_mem (mem_words_readWord s) h)
  unfold readWord
  rw [hRest]
  simp only [hKnown]
  split
  · exact carries_emit (s.advanceTo _) name .variable _
  · split
    · exact carries_emit (s.advanceTo _) name .keyword _
    · rfl

theorem readIdentifier_preceded (h : name ∉ words (readIdentifier s)) :
    Carries name (readIdentifier s) (readIdentifier (s.preceded name)) := by
  have hRest : (s.preceded name).rest = s.rest := rfl
  by_cases hEmpty : s.rest.takeWhile isLetter = []
  · unfold readIdentifier
    rw [hRest, hEmpty]
    rfl
  · have hKnown := mem_preceded_identifiers (s := s)
      (ne_of_mem_of_not_mem (mem_words_readIdentifier hEmpty) h)
    unfold readIdentifier
    rw [hRest]
    simp only [hKnown, List.isEmpty_iff, if_neg hEmpty]
    split
    · rfl
    · unfold Carries
      rw [← preceded_emit]
      simp [State.preceded, State.advanceTo]

theorem skipGap_preceded (s : State) (name : String) :
    skipGap (s.preceded name) = (skipGap s).preceded name := by
  have hRest : (s.preceded name).rest = s.rest := rfl
  unfold skipGap
  rw [hRest]
  split <;> rfl

theorem readDeclaration_preceded (h : name ∉ words (readDeclaration s cs)) :
    Carries name (readDeclaration s cs) (readDeclaration (s.preceded name) cs) := by
  have hAdvance (rest : List Char) :
      (s.preceded name).advanceTo rest = (s.advanceTo rest).preceded name := rfl
  unfold readDeclaration at h ⊢
  dsimp only at h ⊢
  split
  · rfl
  · rename_i hKnown
    rw [if_neg hKnown] at h
    split
    · rename_i hDefine
      rw [if_pos hDefine] at h
      rw [hAdvance, preceded_emit, skipGap_preceded]
      exact readIdentifier_preceded h
    · exact carries_emit (s.advanceTo _) name .declaration _

theorem step_preceded (h : name ∉ words (step s)) :
    Carries name (step s) (step (s.preceded name)) := by
  have hRest : (s.preceded name).rest = s.rest := rfl
  revert h
  unfold step
  rw [hRest]
  -- Of all the cases only declarations and words look a name up.
  split <;> intro h
  · rfl
  · unfold Carries readString
    simp only [preceded_emit]
    rfl
  · rfl
  · unfold Carries readHex
    rw [preceded_emit]
    rfl
  · unfold Carries
    rw [preceded_emit]
    rfl
  · exact readDeclaration_preceded h
  · exact readShape_preceded ..
  · rfl
  · revert h
    split
    · exact fun _ => readNumber_preceded s name
    split
    · exact readWord_preceded
    · exact fun _ => rfl

theorem run_preceded (steps : Nat) (h : name ∉ words (run steps s)) :
    Carries name (run steps s) (run steps (s.preceded name)) := by
  induction steps generalizing s with
  | zero => rfl
  | succ steps ih =>
    obtain ⟨hRest, hDone⟩ | ⟨hRest, next, error, hNext, hDone⟩ | ⟨hRest, next, hNext, hDone⟩ :=
      run_succ_cases (rfl : run (steps + 1) s = _)
    · rw [hDone, run_of_rest_eq_nil (s := s.preceded name) hRest]
      rfl
    · rw [hDone, ← hNext] at h
      have hStep := step_preceded h
      rw [hNext] at hStep
      rw [hDone, run_succ_of_fault (s := s.preceded name) hRest hStep]
      rfl
    · rw [← hDone] at h
      -- What the first step has looked up is still among the words at the end.
      have hFirst : name ∉ words (step s) := by
        rw [hNext]
        exact fun hMem => h (words_subset (prefix_run steps next) hMem)
      have hStep := step_preceded hFirst
      rw [hNext] at hStep
      rw [← hDone, run_succ_of_step (s := s.preceded name) hRest hStep]
      exact ih h

/-! ## The line of the definition -/

theorem isGap_of_isLetter {c : Char} (h : isLetter c) : isGap c = false := by
  refine Bool.eq_false_iff.mpr fun hGap => ?_
  simp only [isGap, Bool.or_eq_true, decide_eq_true_eq] at hGap
  obtain (rfl | rfl) | rfl := hGap <;> revert h <;> decide

theorem isLetter_blank {rest : List Char} : ∀ c ∈ (' ' :: rest).head?, isLetter c = false := by
  rintro c ⟨⟩
  decide

section

variable (hName : name ≠ "") (hLetters : ∀ c ∈ name.toList, isLetter c)
include hName hLetters

theorem skipGap_name {rest : List Char} (hRest : s.rest = ' ' :: (name.toList ++ rest)) :
    skipGap s = s.advanceTo (name.toList ++ rest) := by
  obtain ⟨c, cs, hChars⟩ : ∃ c cs, name.toList = c :: cs :=
    List.exists_cons_of_ne_nil (by simpa using hName)
  have hLetter : isLetter c := hLetters c (by simp [hChars])
  have hBlank : ∀ c ∈ [' '], isGap c := List.forall_mem_singleton.mpr rfl
  have hFirst : ∀ d ∈ (name.toList ++ rest).head?, isGap d = false := by
    simpa [hChars] using isGap_of_isLetter hLetter
  have hGap : s.rest.dropWhile isGap = name.toList ++ rest :=
    (congrArg (List.dropWhile isGap) hRest).trans (dropWhile_run hBlank hFirst)
  have hBreak : c ≠ '\n' := (isWordPart_of_isLetter hLetter).2.2
  rw [skipGap_of_no_break, hGap]
  simpa [hGap, hChars] using hBreak

theorem readIdentifier_name {rest : List Char} (hRest : s.rest = name.toList ++ ' ' :: rest)
    (hNew : name ∉ s.identifiers) : readIdentifier s =
      (⟨' ' :: rest, s.line, s.tokens.push ⟨s.line, .newIdentifier, name⟩,
        s.identifiers.push name⟩, none) := by
  have hSome : name.toList.isEmpty = false := by simpa using hName
  unfold readIdentifier
  rw [hRest, takeWhile_run hLetters isLetter_blank, dropWhile_run hLetters isLetter_blank]
  simp [hSome, hNew, State.emit, State.advanceTo]

/-- The scan of the definition when its name has been read. -/
def named (name : String) (rest : List Char) : State :=
  ⟨rest, 1, #[⟨1, .define, "define"⟩, ⟨1, .newIdentifier, name⟩], #[name]⟩

theorem step_define (rest : List Char) :
    step ⟨"#define ".toList ++ (name.toList ++ ' ' :: rest), 1, #[], #[]⟩ =
      (named name (' ' :: rest), none) := by
  have hStep : step ⟨"#define ".toList ++ (name.toList ++ ' ' :: rest), 1, #[], #[]⟩ =
      readIdentifier (skipGap
        ⟨' ' :: (name.toList ++ ' ' :: rest), 1, #[⟨1, .define, "define"⟩], #[]⟩) :=
    rfl
  have hNew : name ∉ (#[] : Array String) := by simp
  rw [hStep, skipGap_name hName hLetters rfl, readIdentifier_name hName hLetters rfl hNew]
  rfl

end

theorem readWord_of_keyword (hNew : String.ofList (s.rest.takeWhile isLetter) ∉ s.identifiers)
    (hKeyword : String.ofList (s.rest.takeWhile isLetter) ∈ Vocabulary.keywords) : readWord s =
      ((s.advanceTo (s.rest.dropWhile isLetter)).emit .keyword (s.rest.takeWhile isLetter),
        none) := by
  unfold readWord
  dsimp only
  rw [if_neg hNew, if_pos hKeyword]

theorem step_max (hKeyword : name ∉ Vocabulary.keywords) (rest : List Char) :
    step (named name ("max ".toList ++ rest)) =
      ((named name (' ' :: rest)).emit .keyword "max".toList, none) := by
  have hStep : step (named name ("max ".toList ++ rest)) =
      readWord (named name ("max ".toList ++ rest)) :=
    rfl
  have hNe : "max" ≠ name := ne_of_mem_of_not_mem (by decide) hKeyword
  have hNew : "max" ∉ #[name] := by simpa using hNe
  have hMax : "max" ∈ Vocabulary.keywords := by decide
  rw [hStep]
  exact readWord_of_keyword (s := named name ("max ".toList ++ rest)) hNew hMax

theorem run_definingLine (hName : name ≠ "") (hLetters : ∀ c ∈ name.toList, isLetter c)
    (hKeyword : name ∉ Vocabulary.keywords) (source : String) :
    run 8 (State.start (definingLine name ++ source)) =
      ((State.start source).preceded name, none) := by
  let rest := "1 #end\n".toList ++ source.toList
  have hChars : (definingLine name ++ source).toList =
      "#define ".toList ++ (name.toList ++ ' ' :: ("max ".toList ++ rest)) := by
    simp [definingLine, String.toList_append, rest]
  -- Only the steps over the name and over `max` depend on the name. The others compute.
  calc run 8 (State.start (definingLine name ++ source))
    _ = run 7 (named name (' ' :: ("max ".toList ++ rest))) := by
      rw [State.start, hChars]
      exact run_succ_of_step (by simp) (step_define hName hLetters _) 7
    _ = run 6 (named name ("max ".toList ++ rest)) := rfl
    _ = run 5 ((named name (' ' :: rest)).emit .keyword "max".toList) :=
      run_succ_of_step (by simp [named]) (step_max hKeyword rest) 5
    _ = (⟨source.toList, 2, (definingTokens name).toArray, #[name]⟩, none) := rfl
    _ = ((State.start source).preceded name, none) := by simp [State.preceded, State.start]

theorem scan_definingLine (hName : name ≠ "") (hLetters : ∀ c ∈ name.toList, isLetter c)
    (hKeyword : name ∉ Vocabulary.keywords) (hNew : name ∉ words (scan source)) :
    Carries name (scan source) (scan (definingLine name ++ source)) := by
  rw [scan_eq_run (run_definingLine hName hLetters hKeyword source) (Nat.le_refl _)]
  exact run_preceded source.toList.length hNew

end Lexer

end PlotLang
