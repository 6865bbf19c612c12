import PlotLang.Proofs.Progress

/-! # Literals

A text is written as a literal between quotes, with a backslash before every backslash and every
quote of its own. A literal is read a character at a time, two where the first is a backslash, so
the parity of a run of backslashes is never lost: the text comes back whole, and reading goes on
behind the closing quote whatever stands there.
-/

namespace PlotLang.Lexer

variable {s : State} {c : Char} {cs body rest : List Char} {steps : Nat}

/-! ## Quoted texts -/

def quotedChar (c : Char) : List Char :=
  if c = '\\' ∨ c = '"' then ['\\', c] else [c]

def quoted (text : String) : List Char :=
  '"' :: (text.toList.flatMap quotedChar ++ ['"'])

theorem stringBody_quotedChar (c : Char) (cs : List Char) :
    stringBody (quotedChar c ++ cs) = (c :: (stringBody cs).1, (stringBody cs).2) := by
  by_cases hEscaped : c = '\\' ∨ c = '"'
  · rw [quotedChar, if_pos hEscaped, List.cons_append, List.singleton_append, stringBody]
  · obtain ⟨hBackslash, hQuote⟩ := not_or.mp hEscaped
    rw [quotedChar, if_neg hEscaped, List.singleton_append, stringBody_cons hQuote hBackslash]

theorem stringBody_quoted (cs rest : List Char) :
    stringBody (cs.flatMap quotedChar ++ '"' :: rest) = (cs, rest) := by
  induction cs with
  | nil => rw [List.flatMap_nil, List.nil_append, stringBody]
  | cons c cs ih => rw [List.flatMap_cons, List.append_assoc, stringBody_quotedChar, ih]

theorem step_quoted {text : String} (hRest : s.rest = quoted text ++ rest) :
    step s = ({ s with rest := rest, tokens := s.tokens.push ⟨s.line, .string, text⟩ }, none) := by
  have hBody : s.rest = '"' :: (text.toList.flatMap quotedChar ++ '"' :: rest) := by
    rw [hRest, quoted, List.cons_append, List.append_assoc, List.singleton_append]
  rw [step, hBody]
  simp only [readString, stringBody_quoted, State.emit, State.advanceTo, String.ofList_toList]

/-- Wherever a scan comes to a quoted text, its next step emits that text as one literal, and the
scan goes on behind it on the same line and with the same identifiers. -/
theorem run_quoted {source text : String} (hRun : run steps (State.start source) = (s, none))
    (hRest : s.rest = quoted text ++ rest) :
    run (steps + 1) (State.start source) =
        (⟨rest, s.line, s.tokens.push ⟨s.line, .string, text⟩, s.identifiers⟩, none) ∧
      scan source =
        run rest.length ⟨rest, s.line, s.tokens.push ⟨s.line, .string, text⟩, s.identifiers⟩ := by
  have hSome : s.rest ≠ [] := by
    rw [hRest]
    exact List.cons_ne_nil _ _
  have hNext : run (steps + 1) (State.start source) =
      (⟨rest, s.line, s.tokens.push ⟨s.line, .string, text⟩, s.identifiers⟩, none) := by
    rw [run_add hRun, run_succ_of_step hSome (step_quoted hRest)]
    rfl
  exact ⟨hNext, scan_eq_run hNext (Nat.le_refl _)⟩

/-- A quote, a percent sign, a line break and two backslashes, the last of them before the closing
quote. -/
def backslashAtEnd : String := "\"%\n\\\\"

theorem run_quoted_backslashAtEnd :
    run 2 (State.start "at \"\\\"%\n\\\\\\\\\"%") =
        (⟨quoted backslashAtEnd ++ ['%'], 1, #[⟨1, .keyword, "at"⟩], #[]⟩, none) ∧
      run 3 (State.start "at \"\\\"%\n\\\\\\\\\"%") =
        (⟨['%'], 1, #[⟨1, .keyword, "at"⟩, ⟨1, .string, backslashAtEnd⟩], #[]⟩, none) := by
  have hRun : run 2 (State.start "at \"\\\"%\n\\\\\\\\\"%") =
      (⟨quoted backslashAtEnd ++ ['%'], 1, #[⟨1, .keyword, "at"⟩], #[]⟩, none) := by
    cbv
  exact ⟨hRun, (run_quoted hRun rfl).1⟩

end PlotLang.Lexer
