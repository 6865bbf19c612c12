import PlotLang.Token.Lexer

/-! # What the scan of a source emits

Which token may follow which tokens: how each kind is spelt, that a word is a variable just when it
has been introduced before, and that a new identifier stands behind each `define` and nowhere else.
Every step of the scan keeps to this, a failing one too, so a whole scan does.
-/

namespace PlotLang.Lexer

open Text

/-! ## Lists of tokens a scan can emit -/

/-- The identifiers introduced by tokens, in their order. -/
def names (ts : List Token) : List String :=
  (ts.filter (·.kind = .newIdentifier)).map Token.text

/-- The last token announces a new identifier. -/
def AwaitsName (ts : List Token) : Prop :=
  ∃ marker, ts.getLast? = some marker ∧ marker.kind = .define

/-- How a token of each kind is spelt after the tokens `before`. -/
def Spelt (before : List Token) (t : Token) : Prop :=
  match t.kind with
  | .string => True
  | .integer => t.text ≠ "" ∧ t.text.toList.all isDigit
  | .float => t.text ≠ "." ∧ t.text.toList.all isNumberPart ∧ t.text.toList.count '.' = 1
  | .hexColor => t.text.toList.all isHexDigit
  | .comma => t.text = ","
  | .keyword => t.text ∈ Vocabulary.keywords ∧ t.text ∉ names before
  | .declaration => t.text ∈ Vocabulary.declarations ∧ t.text ≠ "define"
  | .shapeFunction => t.text ∈ Vocabulary.shapes
  | .newIdentifier => t.text ∉ names before ∧ t.text ≠ "" ∧ t.text.toList.all isLetter
  | .variable => t.text ∈ names before
  | .define => t.text = "define"

structure Follows (before : List Token) (t : Token) : Prop where
  named : t.kind = .newIdentifier ↔ AwaitsName before
  spelt : Spelt before t

inductive Emitted : List Token → Prop
  | nil : Emitted []
  | snoc {ts : List Token} {t : Token} : Emitted ts → Follows ts t → Emitted (ts ++ [t])

variable {ts : List Token} {t : Token} {s : State} {text : List Char}

theorem not_awaitsName_nil : ¬AwaitsName [] := by
  rintro ⟨marker, hLast, -⟩
  cases hLast

theorem awaitsName_snoc_iff : AwaitsName (ts ++ [t]) ↔ t.kind = .define := by
  simp [AwaitsName]

theorem names_append (us vs : List Token) : names (us ++ vs) = names us ++ names vs := by
  simp [names]

theorem names_snoc_of_name (h : t.kind = .newIdentifier) :
    names (ts ++ [t]) = names ts ++ [t.text] := by
  simp [names, h]

theorem names_snoc_of_not_name (h : t.kind ≠ .newIdentifier) : names (ts ++ [t]) = names ts := by
  simp [names, h]

/-- Each token of an emitted list follows the tokens before it. -/
theorem Emitted.follows {before after : List Token} (h : Emitted ts)
    (hEq : ts = before ++ t :: after) : Follows before t := by
  induction h generalizing after with
  | nil => simp at hEq
  | @snoc us u _ hFollows ih =>
    obtain rfl | ⟨after, last, rfl⟩ := List.eq_nil_or_concat after
    · obtain ⟨rfl, rfl⟩ := List.append_singleton_inj.mp hEq
      exact hFollows
    · rw [List.concat_eq_append, ← List.cons_append, ← List.append_assoc] at hEq
      exact ih (List.append_singleton_inj.mp hEq).1

theorem Emitted.nodup (h : Emitted ts) : (names ts).Nodup := by
  induction h with
  | nil => exact List.nodup_nil
  | @snoc us u _ hFollows ih =>
    by_cases hKind : u.kind = .newIdentifier
    · have hSpelt := hFollows.spelt
      rw [Spelt, hKind] at hSpelt
      have hNew : ∀ name ∈ names us, name ≠ u.text := fun name hMem hEq => hSpelt.1 (hEq ▸ hMem)
      rw [names_snoc_of_name hKind]
      exact List.nodup_append.mpr ⟨ih, by simp, by simpa using hNew⟩
    · rwa [names_snoc_of_not_name hKind]

/-! ## The invariant of the scan -/

structure State.Faithful (s : State) : Prop where
  emitted : Emitted s.tokens.toList
  identifiers : s.identifiers.toList = names s.tokens.toList

/-- Between two steps no identifier is awaited. -/
structure State.Settled (s : State) : Prop extends s.Faithful where
  settled : ¬AwaitsName s.tokens.toList

theorem start_settled (source : String) : (State.start source).Settled :=
  ⟨⟨.nil, rfl⟩, not_awaitsName_nil⟩

theorem State.Faithful.advanceTo (h : s.Faithful) (rest : List Char) :
    (s.advanceTo rest).Faithful :=
  ⟨h.emitted, h.identifiers⟩

/-- Only the tokens and the identifiers count. -/
theorem State.Settled.congr {next : State} (h : s.Settled) (hTokens : next.tokens = s.tokens)
    (hIdentifiers : next.identifiers = s.identifiers) : next.Settled := by
  obtain ⟨⟨hEmitted, hNames⟩, hSettled⟩ := h
  exact ⟨⟨hTokens ▸ hEmitted, by rw [hTokens, hIdentifiers, hNames]⟩, hTokens ▸ hSettled⟩

theorem State.Settled.advanceTo (h : s.Settled) (rest : List Char) : (s.advanceTo rest).Settled :=
  h.congr rfl rfl

@[simp] theorem emit_tokens (s : State) (kind : Token.Kind) (text : List Char) :
    (s.emit kind text).tokens.toList = s.tokens.toList ++ [⟨s.line, kind, String.ofList text⟩] := by
  simp [State.emit]

/-- A token that is no new identifier is emitted where none is awaited. -/
theorem State.Settled.emitFaithful (h : s.Settled) (kind : Token.Kind)
    (hKind : kind ≠ .newIdentifier)
    (hSpelt : Spelt s.tokens.toList ⟨s.line, kind, String.ofList text⟩) :
    (s.emit kind text).Faithful := by
  refine ⟨?_, ?_⟩
  · rw [emit_tokens]
    exact h.emitted.snoc ⟨iff_of_false hKind h.settled, hSpelt⟩
  · rw [emit_tokens, names_snoc_of_not_name hKind]
    exact h.identifiers

theorem State.Settled.emit (h : s.Settled) (kind : Token.Kind)
    (hKind : kind ≠ .newIdentifier ∧ kind ≠ .define)
    (hSpelt : Spelt s.tokens.toList ⟨s.line, kind, String.ofList text⟩) :
    (s.emit kind text).Settled := by
  refine ⟨h.emitFaithful kind hKind.1 hSpelt, ?_⟩
  rw [emit_tokens, awaitsName_snoc_iff]
  exact hKind.2

/-! ## Steps -/

/-- A step keeps the invariant, and unless it fails no identifier is awaited after it. -/
structure Keeps (result : State × Option Error) : Prop where
  faithful : result.1.Faithful
  settled : result.2 = none → result.1.Settled

theorem Keeps.done (h : s.Settled) : Keeps (s, none) := ⟨h.toFaithful, fun _ => h⟩

theorem Keeps.fail (h : s.Faithful) (fault : Fault) : Keeps (s.fail fault) := ⟨h, nofun⟩

theorem readString_settled (h : s.Settled) (afterQuote : List Char) :
    (readString s afterQuote).Settled :=
  (h.emit .string (by decide) trivial).advanceTo _

theorem all_takeWhile_toList (p : Char → Bool) (cs : List Char) :
    (String.ofList (cs.takeWhile p)).toList.all p := by
  rw [String.toList_ofList]
  exact List.all_takeWhile

theorem readHex_settled (h : s.Settled) (digits : List Char) : (readHex s digits).Settled :=
  (h.emit .hexColor (by decide) (all_takeWhile_toList _ _)).advanceTo _

/-- Without a dot only digits are left of a number's text. -/
theorem all_isDigit_of_count_eq_zero {cs : List Char} (hAll : cs.all isNumberPart)
    (hCount : cs.count '.' = 0) : cs.all isDigit := by
  rw [List.all_eq_true] at hAll ⊢
  intro c hMem
  have hDot : c ≠ '.' := fun hEq => List.count_eq_zero.mp hCount (hEq ▸ hMem)
  simpa [isNumberPart, hDot] using hAll c hMem

theorem ofList_ne_empty {cs : List Char} (h : cs ≠ []) : String.ofList cs ≠ "" := by
  intro hEq
  exact h (by simpa using congrArg String.toList hEq)

theorem readNumber_keeps (h : s.Settled) (hRest : s.rest.takeWhile isNumberPart ≠ []) :
    Keeps (readNumber s) := by
  have hAfter := h.advanceTo (s.rest.dropWhile isNumberPart)
  have hAll : (s.rest.takeWhile isNumberPart).all isNumberPart := List.all_takeWhile
  unfold readNumber
  simp only
  split
  · rename_i hCount
    refine .done (hAfter.emit .integer (by decide) ⟨ofList_ne_empty hRest, ?_⟩)
    rw [String.toList_ofList]
    exact all_isDigit_of_count_eq_zero hAll hCount
  · rename_i hCount
    split
    · exact .done hAfter
    · rename_i hDot
      refine .done (hAfter.emit .float (by decide) ⟨fun hEq => hDot ?_, ?_, ?_⟩)
      · simpa using congrArg String.toList hEq
      · exact all_takeWhile_toList _ _
      · rwa [String.toList_ofList]
  · exact .fail hAfter.toFaithful _

/-- A new identifier is emitted where one is awaited, and none is awaited after it. -/
theorem readIdentifier_keeps (h : s.Faithful) (hAwaits : AwaitsName s.tokens.toList) :
    Keeps (readIdentifier s) := by
  unfold readIdentifier
  simp only
  split
  · exact .fail (h.advanceTo _) _
  · split
    · exact .fail (h.advanceTo _) _
    · rename_i hName hNew
      refine .done ⟨⟨?_, ?_⟩, ?_⟩
      · rw [emit_tokens]
        refine h.emitted.snoc ⟨iff_of_true rfl hAwaits, ?_, ?_, all_takeWhile_toList _ _⟩
        · rw [← h.identifiers]
          exact fun hMem => hNew (Array.mem_toList_iff.mp hMem)
        · exact ofList_ne_empty (by simpa using hName)
      · rw [emit_tokens, names_snoc_of_name rfl]
        simp [State.emit, State.advanceTo, h.identifiers]
      · rw [emit_tokens, awaitsName_snoc_iff]
        nofun

theorem skipGap_tokens (s : State) : (skipGap s).tokens = s.tokens := by
  unfold skipGap
  split <;> rfl

theorem skipGap_identifiers (s : State) : (skipGap s).identifiers = s.identifiers := by
  unfold skipGap
  split <;> rfl

theorem readDeclaration_keeps (h : s.Settled) (afterSign : List Char) :
    Keeps (readDeclaration s afterSign) := by
  have hAfter := h.advanceTo (afterSign.dropWhile isLetter)
  unfold readDeclaration
  simp only
  split
  · exact .fail hAfter.toFaithful _
  · rename_i hText
    split
    · rename_i hDefine
      have hMarked := hAfter.emitFaithful .define (by decide) hDefine
      refine readIdentifier_keeps ⟨?_, ?_⟩ ?_
      · rw [skipGap_tokens]
        exact hMarked.emitted
      · rw [skipGap_tokens, skipGap_identifiers]
        exact hMarked.identifiers
      · rw [skipGap_tokens, emit_tokens, awaitsName_snoc_iff]
    · rename_i hOther
      exact .done (hAfter.emit .declaration (by decide) ⟨Decidable.not_not.mp hText, hOther⟩)

theorem readShape_keeps (h : s.Settled) (afterSign : List Char) :
    Keeps (readShape s afterSign) := by
  unfold readShape
  simp only
  split
  · rename_i hText
    exact .done ((h.advanceTo _).emit .shapeFunction (by decide) hText)
  · exact .fail (h.advanceTo _).toFaithful _

theorem readWord_keeps (h : s.Settled) : Keeps (readWord s) := by
  have hAfter := h.advanceTo (s.rest.dropWhile isLetter)
  unfold readWord
  simp only
  split
  · rename_i hDefined
    refine .done (hAfter.emit .variable (by decide) ?_)
    rw [Spelt, ← hAfter.identifiers]
    exact Array.mem_toList_iff.mpr hDefined
  · rename_i hUndefined
    split
    · rename_i hKeyword
      refine .done (hAfter.emit .keyword (by decide) ⟨hKeyword, ?_⟩)
      rw [← hAfter.identifiers]
      exact fun hMem => hUndefined (Array.mem_toList_iff.mp hMem)
    · exact .fail hAfter.toFaithful _

theorem step_keeps (h : s.Settled) : Keeps (step s) := by
  unfold step
  split
  · exact .done h
  · exact .done (readString_settled h _)
  · exact .done (h.congr rfl rfl)
  · exact .done (readHex_settled h _)
  · exact .done ((h.emit .comma (by decide) rfl).advanceTo _)
  · exact readDeclaration_keeps h _
  · exact readShape_keeps h _
  · exact .done (h.advanceTo _)
  · rename_i c rest hRest
    split
    · rename_i hNumber
      refine readNumber_keeps h ?_
      rw [hRest, List.takeWhile_cons_of_pos hNumber]
      exact List.cons_ne_nil _ _
    · split
      · exact readWord_keeps h
      · exact .done (h.advanceTo _)

theorem run_keeps (h : s.Settled) (steps : Nat) : Keeps (run steps s) := by
  induction steps generalizing s with
  | zero => exact .done h
  | succ steps ih =>
    rw [run]
    split
    · exact .done h
    · have hStep := step_keeps h
      split
      · rename_i next hNext
        rw [hNext] at hStep
        exact ih (hStep.settled rfl)
      · exact hStep

theorem scan_keeps (source : String) : Keeps (scan source) :=
  run_keeps (start_settled source) _

/-- The tokens of a whole source: each follows those before it and no identifier is missing. -/
theorem tokenize_emitted {source : String} (h : tokenize source = .ok ts) :
    Emitted ts ∧ ¬AwaitsName ts := by
  have hScan := scan_keeps source
  unfold tokenize at h
  split at h
  · rename_i final hFinal
    rw [hFinal] at hScan
    cases h
    exact ⟨hScan.faithful.emitted, (hScan.settled rfl).settled⟩
  · cases h

end PlotLang.Lexer
