import PlotLang.Proofs.SourceLines

/-! # Every step reads on

A step takes at least one character from the front of the source and leaves the others as they are,
and it keeps the tokens found before. So a scan of as many steps as characters comes to the end or
to a fault, more steps change nothing, and a scan goes on from any of its states as if it had begun
there.
-/

namespace PlotLang.Lexer

open Text (isHexDigit isLetter)

variable {s next final : State} {c : Char} {cs : List Char} {steps more : Nat}
  {result : State × Option Error}

/-! ## What a step leaves -/

theorem readNumber_rest (s : State) : (readNumber s).1.rest = s.rest.dropWhile isNumberPart := by
  simp only [readNumber]
  split
  · rfl
  · split <;> rfl
  · rfl

theorem readWord_rest (s : State) : (readWord s).1.rest = s.rest.dropWhile isLetter := by
  simp only [readWord]
  split
  · rfl
  · split <;> rfl

theorem readShape_rest (s : State) (cs : List Char) :
    (readShape s cs).1.rest = cs.dropWhile isLetter := by
  simp only [readShape]
  split <;> rfl

theorem readIdentifier_rest (s : State) :
    (readIdentifier s).1.rest = s.rest.dropWhile isLetter := by
  simp only [readIdentifier]
  split
  · rfl
  · split <;> rfl

theorem skipGap_suffix (s : State) : (skipGap s).rest <:+ s.rest := by
  have hGap := List.dropWhile_suffix isGap (l := s.rest)
  unfold skipGap
  split
  · rename_i rest hRest
    rw [hRest] at hGap
    exact ((List.dropWhile_suffix isGap).trans (List.suffix_cons '\n' rest)).trans hGap
  · exact hGap

theorem readDeclaration_suffix (s : State) (cs : List Char) :
    (readDeclaration s cs).1.rest <:+ cs := by
  have hName := List.dropWhile_suffix isLetter (l := cs)
  simp only [readDeclaration]
  split
  · exact hName
  split
  · rw [readIdentifier_rest]
    exact ((List.dropWhile_suffix _).trans (skipGap_suffix _)).trans hName
  · exact hName

theorem stringBody_suffix (cs : List Char) : (stringBody cs).2 <:+ cs := by
  obtain ⟨body, hBody, -⟩ := exists_stringBody cs
  exact ⟨body, hBody.symm⟩

theorem dropWhile_suffix_tail {p : Char → Bool} (h : p c) :
    (c :: cs).dropWhile p <:+ cs := by
  rw [List.dropWhile_cons_of_pos h]
  exact List.dropWhile_suffix p

theorem step_suffix (s : State) : (step s).1.rest <:+ s.rest.tail := by
  unfold step
  split
  · rename_i hRest
    rw [hRest]
    exact List.suffix_rfl
  · rename_i rest hRest
    rw [hRest]
    exact stringBody_suffix rest
  · rename_i hRest
    rw [hRest]
    exact List.suffix_rfl
  · rename_i digits hRest
    rw [hRest]
    exact (List.dropWhile_suffix isHexDigit).trans (List.suffix_cons 'x' digits)
  · rename_i hRest
    rw [hRest]
    exact List.suffix_rfl
  · rename_i rest hRest
    rw [hRest]
    exact readDeclaration_suffix s rest
  · rename_i rest hRest
    rw [hRest, readShape_rest]
    exact List.dropWhile_suffix isLetter
  · rename_i rest hRest
    rw [hRest]
    exact (List.drop_suffix 1 _).trans (List.dropWhile_suffix _)
  · rename_i c rest _ _ _ _ _ _ _ hRest
    split
    · rename_i hNumber
      rw [readNumber_rest, hRest]
      exact dropWhile_suffix_tail hNumber
    split
    · rename_i hLetter
      rw [readWord_rest, hRest]
      exact dropWhile_suffix_tail hLetter
    · rw [hRest]
      exact List.suffix_rfl

theorem step_shortens (h : s.rest ≠ []) : (step s).1.rest.length < s.rest.length := by
  have hTail := (step_suffix s).length_le
  have hSome := List.length_pos_iff.mpr h
  rw [List.length_tail] at hTail
  omega

/-! ## The tokens a step adds -/

theorem prefix_emit (s : State) (kind : Token.Kind) (text : List Char) :
    s.tokens.toList <+: (s.emit kind text).tokens.toList := by
  rw [emit_tokens]
  exact List.prefix_append ..

theorem prefix_readNumber (s : State) :
    s.tokens.toList <+: (readNumber s).1.tokens.toList := by
  simp only [readNumber]
  split
  · exact prefix_emit ..
  · split
    · exact List.prefix_rfl
    · exact prefix_emit ..
  · exact List.prefix_rfl

theorem prefix_readWord (s : State) : s.tokens.toList <+: (readWord s).1.tokens.toList := by
  simp only [readWord]
  split
  · exact prefix_emit ..
  · split
    · exact prefix_emit ..
    · exact List.prefix_rfl

theorem prefix_readShape (s : State) (cs : List Char) :
    s.tokens.toList <+: (readShape s cs).1.tokens.toList := by
  simp only [readShape]
  split
  · exact prefix_emit ..
  · exact List.prefix_rfl

theorem prefix_readIdentifier (s : State) :
    s.tokens.toList <+: (readIdentifier s).1.tokens.toList := by
  simp only [readIdentifier]
  split
  · exact List.prefix_rfl
  · split
    · exact List.prefix_rfl
    · exact prefix_emit ..

theorem prefix_readDeclaration (s : State) (cs : List Char) :
    s.tokens.toList <+: (readDeclaration s cs).1.tokens.toList := by
  simp only [readDeclaration]
  split
  · exact List.prefix_rfl
  split
  · have hName := prefix_readIdentifier
      (skipGap ((s.advanceTo (cs.dropWhile isLetter)).emit .define (cs.takeWhile isLetter)))
    rw [skipGap_tokens] at hName
    exact (prefix_emit (s.advanceTo _) _ _).trans hName
  · exact prefix_emit ..

theorem prefix_step (s : State) : s.tokens.toList <+: (step s).1.tokens.toList := by
  unfold step
  split
  · exact List.prefix_rfl
  · exact prefix_emit ..
  · exact List.prefix_rfl
  · exact prefix_emit ..
  · exact prefix_emit ..
  · exact prefix_readDeclaration ..
  · exact prefix_readShape ..
  · exact List.prefix_rfl
  · split
    · exact prefix_readNumber s
    split
    · exact prefix_readWord s
    · exact List.prefix_rfl

/-! ## Runs -/

theorem run_of_rest_eq_nil (hRest : s.rest = []) (steps : Nat) : run steps s = (s, none) := by
  cases steps with
  | zero => rfl
  | succ steps => rw [run, hRest, List.isEmpty_nil, if_pos rfl]

theorem run_succ_of_step (hRest : s.rest ≠ []) (hStep : step s = (next, none)) (steps : Nat) :
    run (steps + 1) s = run steps next := by
  rw [run, if_neg (mt List.isEmpty_iff.mp hRest), hStep]

theorem run_succ_of_fault {error : Error} (hRest : s.rest ≠ [])
    (hStep : step s = (next, some error)) (steps : Nat) :
    run (steps + 1) s = (next, some error) := by
  rw [run, if_neg (mt List.isEmpty_iff.mp hRest), hStep]

/-- What one step more does: nothing at the end of a source, a fault, or a step and the rest of the
run. -/
theorem run_succ_cases (hRun : run (steps + 1) s = result) :
    (s.rest = [] ∧ result = (s, none)) ∨
    (s.rest ≠ [] ∧ ∃ next error, step s = (next, some error) ∧ result = (next, some error)) ∨
    (s.rest ≠ [] ∧ ∃ next, step s = (next, none) ∧ run steps next = result) := by
  by_cases hRest : s.rest = []
  · exact .inl ⟨hRest, by rw [← hRun, run_of_rest_eq_nil hRest]⟩
  · cases hStep : step s with
    | mk next error? =>
      cases error? with
      | none => exact .inr (.inr ⟨hRest, next, rfl, by rw [← hRun, run_succ_of_step hRest hStep]⟩)
      | some error =>
        exact .inr (.inl ⟨hRest, next, error, rfl, by rw [← hRun, run_succ_of_fault hRest hStep]⟩)

/-- A run goes no way that single steps do not go. -/
theorem run_related {R : State → State → Prop} (hRefl : ∀ s, R s s)
    (hTrans : ∀ {s t u}, R s t → R t u → R s u) (hStep : ∀ s, R s (step s).1) (steps : Nat)
    (s : State) : R s (run steps s).1 := by
  induction steps generalizing s with
  | zero => exact hRefl s
  | succ steps ih =>
    have hFirst := hStep s
    obtain ⟨-, hDone⟩ | ⟨-, next, error, hNext, hDone⟩ | ⟨-, next, hNext, hDone⟩ :=
      run_succ_cases (rfl : run (steps + 1) s = _)
    · rw [hDone]
      exact hRefl s
    · rw [hDone]
      rwa [hNext] at hFirst
    · rw [← hDone]
      rw [hNext] at hFirst
      exact hTrans hFirst (ih next)

theorem run_suffix (steps : Nat) (s : State) : (run steps s).1.rest <:+ s.rest :=
  run_related (R := fun s t => t.rest <:+ s.rest) (fun _ => List.suffix_rfl)
    (fun hFirst hRest => hRest.trans hFirst)
    (fun s => (step_suffix s).trans (List.tail_suffix s.rest)) steps s

theorem prefix_run (steps : Nat) (s : State) :
    s.tokens.toList <+: (run steps s).1.tokens.toList :=
  run_related (R := fun s t => s.tokens.toList <+: t.tokens.toList) (fun _ => List.prefix_rfl)
    List.IsPrefix.trans prefix_step steps s

/-- A run of so many steps that it must have come to the end or to a fault. -/
theorem run_rest_eq_nil (hSteps : s.rest.length ≤ steps) (hRun : run steps s = (final, none)) :
    final.rest = [] := by
  induction steps generalizing s with
  | zero =>
    cases hRun
    exact List.length_eq_zero_iff.mp (Nat.le_zero.mp hSteps)
  | succ steps ih =>
    obtain ⟨hRest, hDone⟩ | ⟨-, next, error, -, hDone⟩ | ⟨hRest, next, hNext, hDone⟩ :=
      run_succ_cases hRun
    · cases hDone
      exact hRest
    · cases hDone
    · have hStep := step_shortens hRest
      rw [hNext] at hStep
      exact ih (Nat.le_of_lt_succ (Nat.lt_of_lt_of_le hStep hSteps)) hDone

/-- A run is taken up where an earlier one has stopped. -/
theorem run_add (hRun : run steps s = (next, none)) (more : Nat) :
    run (steps + more) s = run more next := by
  induction steps generalizing s with
  | zero =>
    cases hRun
    rw [Nat.zero_add]
  | succ steps ih =>
    rw [Nat.succ_add]
    obtain ⟨hRest, hDone⟩ | ⟨-, _, _, -, hDone⟩ | ⟨hRest, m, hNext, hDone⟩ := run_succ_cases hRun
    · cases hDone
      rw [run_of_rest_eq_nil hRest, run_of_rest_eq_nil hRest]
    · cases hDone
    · rw [run_succ_of_step hRest hNext]
      exact ih hDone

theorem run_add_of_fault {error : Error} (hRun : run steps s = (next, some error)) (more : Nat) :
    run (steps + more) s = (next, some error) := by
  induction steps generalizing s with
  | zero => cases hRun
  | succ steps ih =>
    rw [Nat.succ_add]
    obtain ⟨-, hDone⟩ | ⟨hRest, _, _, hNext, hDone⟩ | ⟨hRest, m, hNext, hDone⟩ :=
      run_succ_cases hRun
    · cases hDone
    · rw [run_succ_of_fault hRest hNext, hDone]
    · rw [run_succ_of_step hRest hNext]
      exact ih hDone

/-- More steps than characters change nothing. -/
theorem run_eq_of_length_le (hSteps : s.rest.length ≤ steps) :
    run steps s = run s.rest.length s := by
  obtain ⟨more, rfl⟩ := Nat.exists_eq_add_of_le hSteps
  cases hRun : run s.rest.length s with
  | mk next error? =>
    cases error? with
    | some error => exact run_add_of_fault hRun more
    | none =>
      rw [run_add hRun, run_of_rest_eq_nil (run_rest_eq_nil (Nat.le_refl _) hRun)]

/-- A scan goes on from any state it comes to. -/
theorem scan_eq_run {source : String} (hRun : run steps (State.start source) = (s, none))
    (hMore : s.rest.length ≤ more) : scan source = run more s := by
  have hLength : (State.start source).rest.length ≤ steps + source.toList.length :=
    Nat.le_add_left ..
  calc scan source
    _ = run (steps + source.toList.length) (State.start source) :=
      (run_eq_of_length_le hLength).symm
    _ = run source.toList.length s := run_add hRun _
    _ = run s.rest.length s := run_eq_of_length_le (hRun ▸ run_suffix steps _).length_le
    _ = run more s := (run_eq_of_length_le hMore).symm

end PlotLang.Lexer
