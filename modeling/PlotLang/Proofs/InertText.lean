import PlotLang.Proofs.Progress
import PlotLang.Text.Run

/-! # Text without meaning

A step looks no further than the first character that it leaves. That character only ends a word, a
number or the digits of a color, and what it is otherwise has no part in the step. So where a step
begins, any text may be put in that ends all three and holds no token of its own: the scan passes
over it and comes to the same tokens on the same lines.
-/

namespace PlotLang.Lexer

open Text (dropWhile_run isHexDigit isLetter takeWhile_run)

variable {s next final : State} {c : Char} {cs ds text after rest post post' u : List Char}
  {p : Char → Bool} {steps : Nat}

/-! ## What a reader looks at

The readers are followed on a text `cs ++ post` of which `ds ++ post` is left, and then on
`cs ++ post'`. -/

/-- No word, number or color goes on with these characters. -/
def Divides (cs : List Char) : Prop :=
  ∀ c ∈ cs.head?, isLetter c = false ∧ isNumberPart c = false ∧ isHexDigit c = false

theorem span_of_dropWhile_eq (post' : List Char) (h : (cs ++ post).dropWhile p = ds ++ post)
    (hEnd : ds = [] → ∀ c ∈ post'.head?, p c = false) :
    (cs ++ post').takeWhile p = (cs ++ post).takeWhile p ∧
      (cs ++ post').dropWhile p = ds ++ post' := by
  have hSpan : (cs ++ post).takeWhile p ++ ds = cs := by
    refine (List.append_left_inj post).mp ?_
    rw [List.append_assoc, ← h, List.takeWhile_append_dropWhile]
  have hInside : ∀ c ∈ (cs ++ post).takeWhile p, p c := fun c hMem =>
    List.all_eq_true.mp List.all_takeWhile c hMem
  have hStop : ∀ c ∈ (ds ++ post').head?, p c = false := by
    cases ds with
    | nil => exact hEnd rfl
    | cons d ds =>
      rintro c ⟨⟩
      have hHead := List.head_dropWhile_not p (l := cs ++ post) (by simp [h])
      simpa [h] using hHead
  have hNew : cs ++ post' = (cs ++ post).takeWhile p ++ (ds ++ post') := by
    rw [← List.append_assoc, hSpan]
  rw [hNew]
  exact ⟨takeWhile_run hInside hStop, dropWhile_run hInside hStop⟩

theorem Divides.letters (h : Divides post') (hDrop : (cs ++ post).dropWhile isLetter = ds ++ post) :
    (cs ++ post').takeWhile isLetter = (cs ++ post).takeWhile isLetter ∧
      (cs ++ post').dropWhile isLetter = ds ++ post' :=
  span_of_dropWhile_eq post' hDrop fun _ c hMem => (h c hMem).1

/-- A literal that is closed is read alike whatever stands behind it. -/
theorem stringBody_append (h : Region.after (.literal false) cs = .code) (rest : List Char) :
    stringBody (cs ++ rest) = ((stringBody cs).1, (stringBody cs).2 ++ rest) := by
  fun_induction stringBody cs with
  | case1 => cases h
  | case2 cs => rw [List.cons_append, stringBody]
  | case3 => cases h
  | case4 c cs text after hText ih =>
    have hRest : Region.after (.literal false) cs = .code := by
      simpa [Region.after, Region.next] using h
    have hBody := ih hRest
    rw [hText] at hBody
    rw [List.cons_append, List.cons_append, stringBody, hBody]
  | case5 c cs hQuote hLast hEscape text after hText ih =>
    have hQuote : c ≠ '"' := hQuote
    have hBackslash : c ≠ '\\' := by
      intro hEq
      cases cs with
      | nil => exact hLast hEq rfl
      | cons d cs => exact hEscape d cs hEq rfl
    have hRest : Region.after (.literal false) cs = .code := by
      simpa [Region.after, Region.next, hQuote, hBackslash] using h
    have hBody := ih hRest
    rw [hText] at hBody
    rw [List.cons_append, stringBody_cons hQuote hBackslash, hBody]

theorem stringBody_eq_of_rest (post' : List Char)
    (h : (stringBody (cs ++ post)).2 = ds ++ post) (hPost : post ≠ []) :
    stringBody (cs ++ post') = ((stringBody (cs ++ post)).1, ds ++ post') := by
  obtain ⟨body, hBody, hText, -, hAfter⟩ := exists_stringBody (cs ++ post)
  rw [h] at hBody hAfter
  have hClosed := hAfter.resolve_right fun hNil => hPost (List.append_eq_nil_iff.mp hNil).2
  have hCut : cs = body ++ ds :=
    (List.append_left_inj post).mp (by rw [hBody, List.append_assoc])
  have hRead := stringBody_append hClosed (ds ++ post')
  rw [hText, List.nil_append] at hRead
  rw [← hRead, hCut, List.append_assoc]

theorem afterComment_eq_of_rest (post' : List Char)
    (h : afterComment (cs ++ post) = ds ++ post) (hPost : post ≠ []) :
    afterComment (cs ++ post') = ds ++ post' := by
  unfold afterComment at h ⊢
  cases hEnd : (cs ++ post).dropWhile (· != '%') with
  | nil =>
    rw [hEnd] at h
    exact absurd (List.append_eq_nil_iff.mp h.symm).2 hPost
  | cons c rest =>
    rw [hEnd, List.drop_one, List.tail_cons] at h
    rw [h, ← List.cons_append] at hEnd
    rw [(span_of_dropWhile_eq post' hEnd fun hNil => absurd hNil (List.cons_ne_nil _ _)).2]
    rfl

/-! ## Steps -/

theorem readNumber_insert (hRest : s.rest = cs ++ post) (hStep : readNumber s = (next, none))
    (hNext : next.rest = ds ++ post) (hDivides : Divides post') :
    readNumber (s.advanceTo (cs ++ post')) = (next.advanceTo (ds ++ post'), none) := by
  have hDrop : (cs ++ post).dropWhile isNumberPart = ds ++ post := by
    rw [← hRest, ← readNumber_rest, hStep, hNext]
  obtain ⟨hText, hAfter⟩ := span_of_dropWhile_eq post' hDrop fun _ c hMem => (hDivides c hMem).2.1
  simp only [readNumber, hRest, hDrop] at hStep
  simp only [readNumber, State.advanceTo, hText, hAfter]
  split at hStep
  · cases hStep
    rfl
  · split at hStep
    · cases hStep
      rw [if_pos ‹_›]
      rfl
    · cases hStep
      rw [if_neg ‹_›]
      rfl
  · cases hStep

theorem readWord_insert (hRest : s.rest = cs ++ post) (hStep : readWord s = (next, none))
    (hNext : next.rest = ds ++ post) (hDivides : Divides post') :
    readWord (s.advanceTo (cs ++ post')) = (next.advanceTo (ds ++ post'), none) := by
  have hDrop : (cs ++ post).dropWhile isLetter = ds ++ post := by
    rw [← hRest, ← readWord_rest, hStep, hNext]
  obtain ⟨hText, hAfter⟩ := hDivides.letters hDrop
  simp only [readWord, hRest] at hStep
  simp only [readWord, State.advanceTo, hText, hAfter]
  split at hStep
  · cases hStep
    rw [if_pos ‹_›]
    rfl
  · split at hStep
    · cases hStep
      rw [if_neg ‹_›, if_pos ‹_›]
      rfl
    · cases hStep

theorem readShape_insert (hStep : readShape s (cs ++ post) = (next, none))
    (hNext : next.rest = ds ++ post) (hDivides : Divides post') :
    readShape (s.advanceTo rest) (cs ++ post') = (next.advanceTo (ds ++ post'), none) := by
  have hDrop : (cs ++ post).dropWhile isLetter = ds ++ post := by
    rw [← readShape_rest s, hStep, hNext]
  obtain ⟨hText, hAfter⟩ := hDivides.letters hDrop
  simp only [readShape] at hStep
  simp only [readShape, hText, hAfter]
  split at hStep
  · cases hStep
    rw [if_pos ‹_›]
    rfl
  · cases hStep

theorem readIdentifier_insert (hRest : s.rest = cs ++ post)
    (hStep : readIdentifier s = (next, none)) (hNext : next.rest = ds ++ post)
    (hDivides : Divides post') : cs ≠ [] ∧
      readIdentifier (s.advanceTo (cs ++ post')) = (next.advanceTo (ds ++ post'), none) := by
  have hDrop : (cs ++ post).dropWhile isLetter = ds ++ post := by
    rw [← hRest, ← readIdentifier_rest, hStep, hNext]
  obtain ⟨hText, hAfter⟩ := hDivides.letters hDrop
  simp only [readIdentifier, hRest] at hStep
  simp only [readIdentifier, State.advanceTo, hText, hAfter]
  split at hStep
  · cases hStep
  · split at hStep
    · cases hStep
    · rename_i hName hNew
      cases hStep
      refine ⟨?_, by rw [if_neg hName, if_neg hNew]; rfl⟩
      rintro rfl
      -- A name that is read was taken from the text before `post`.
      have hLength := congrArg List.length
        (List.takeWhile_append_dropWhile (p := isLetter) (l := post))
      rw [List.nil_append] at hDrop hName
      rw [hDrop, List.length_append, List.length_append] at hLength
      exact hName (List.isEmpty_iff.mpr (List.length_eq_zero_iff.mp (by omega)))

theorem readHex_insert {digits : List Char} (hDigits : cs ++ post = 'x' :: digits)
    (hNext : (readHex s digits).rest = ds ++ post) (hDivides : Divides post') :
    ∃ cs', cs = 'x' :: cs' ∧ ∀ rest,
      readHex (s.advanceTo rest) (cs' ++ post') = (readHex s digits).advanceTo (ds ++ post') := by
  have hDrop : digits.dropWhile isHexDigit = ds ++ post := hNext
  cases cs with
  | nil =>
    -- The sign of a color is not divided from its digits.
    have hLength := (List.dropWhile_suffix isHexDigit (l := digits)).length_le
    have hPost := congrArg List.length hDigits
    rw [hDrop, List.length_append] at hLength
    rw [List.nil_append, List.length_cons] at hPost
    omega
  | cons d cs =>
    obtain ⟨rfl, rfl⟩ := List.cons_eq_cons.mp hDigits
    obtain ⟨hText, hAfter⟩ := span_of_dropWhile_eq post' hDrop fun _ c hMem => (hDivides c hMem).2.2
    refine ⟨cs, rfl, fun rest => ?_⟩
    simp only [readHex, hText, hAfter]
    rfl

theorem skipGap_of_break (hBreak : s.rest.dropWhile isGap = '\n' :: rest) :
    skipGap s = { s with rest := rest.dropWhile isGap, line := s.line + 1 } := by
  simp only [skipGap, hBreak]

theorem skipGap_of_no_break (hBreak : (s.rest.dropWhile isGap).head? ≠ some '\n') :
    skipGap s = s.advanceTo (s.rest.dropWhile isGap) := by
  unfold skipGap
  split
  · rename_i hDrop
    rw [hDrop] at hBreak
    exact absurd rfl hBreak
  · rfl

theorem skipGap_insert (post' : List Char) (hRest : s.rest = cs ++ post)
    (hNext : (skipGap s).rest = ds ++ post) (hSome : ds ≠ []) :
    skipGap (s.advanceTo (cs ++ post')) = (skipGap s).advanceTo (ds ++ post') := by
  by_cases hBreak : (s.rest.dropWhile isGap).head? = some '\n'
  · obtain ⟨rest, hDrop⟩ := List.head?_eq_some_iff.mp hBreak
    rw [skipGap_of_break hDrop] at hNext ⊢
    have hLeft : rest.dropWhile isGap = ds ++ post := hNext
    obtain ⟨gap, hGap⟩ := List.dropWhile_suffix isGap (l := rest)
    -- The line break stands before the text that is left.
    rw [hLeft, ← List.append_assoc] at hGap
    rw [hRest, ← hGap, ← List.cons_append] at hDrop
    rw [← hGap] at hLeft
    have hFirst : (s.advanceTo (cs ++ post')).rest.dropWhile isGap = '\n' :: (gap ++ ds ++ post') :=
      (span_of_dropWhile_eq post' hDrop fun hNil => absurd hNil (List.cons_ne_nil _ _)).2
    have hSecond := (span_of_dropWhile_eq post' hLeft fun hNil => absurd hNil hSome).2
    rw [skipGap_of_break hFirst, hSecond]
    rfl
  · rw [skipGap_of_no_break hBreak] at hNext ⊢
    have hDrop : (cs ++ post).dropWhile isGap = ds ++ post := by rw [← hRest]; exact hNext
    have hNew : (s.advanceTo (cs ++ post')).rest.dropWhile isGap = ds ++ post' :=
      (span_of_dropWhile_eq post' hDrop fun hNil => absurd hNil hSome).2
    obtain ⟨d, ds, rfl⟩ := List.exists_cons_of_ne_nil hSome
    rw [hRest, hDrop] at hBreak
    rw [skipGap_of_no_break (by rw [hNew]; exact hBreak), hNew]
    rfl

theorem exists_eq_append (h : ds ++ post <:+ rest) : ∃ ds', rest = ds' ++ post := by
  obtain ⟨taken, hTaken⟩ := h
  exact ⟨taken ++ ds, by rw [List.append_assoc, hTaken]⟩

theorem readDeclaration_insert (hStep : readDeclaration s (cs ++ post) = (next, none))
    (hNext : next.rest = ds ++ post) (hDivides : Divides post') :
    readDeclaration (s.advanceTo rest) (cs ++ post') = (next.advanceTo (ds ++ post'), none) := by
  simp only [readDeclaration] at hStep
  split at hStep
  · cases hStep
  rename_i hKnown
  split at hStep
  · rename_i hDefine
    have hName := readIdentifier_rest (skipGap
      ((s.advanceTo ((cs ++ post).dropWhile isLetter)).emit .define
        ((cs ++ post).takeWhile isLetter)))
    rw [hStep, hNext] at hName
    obtain ⟨gap, hGap⟩ := exists_eq_append (hName ▸ List.dropWhile_suffix isLetter)
    obtain ⟨word, hWord⟩ := exists_eq_append (hGap ▸ skipGap_suffix _)
    obtain ⟨hSome, hIdentifier⟩ := readIdentifier_insert hGap hStep hNext hDivides
    have hSkip := skipGap_insert post' hWord hGap hSome
    obtain ⟨hText, hAfter⟩ := hDivides.letters hWord
    simp only [readDeclaration, hText, hAfter, if_neg hKnown, if_pos hDefine]
    rw [← hIdentifier, ← hSkip]
    rfl
  · rename_i hDefine
    have hDrop : (cs ++ post).dropWhile isLetter = ds ++ post := by
      cases hStep
      exact hNext
    obtain ⟨hText, hAfter⟩ := hDivides.letters hDrop
    cases hStep
    simp only [readDeclaration, hText, hAfter, if_neg hKnown, if_neg hDefine]
    rfl

theorem step_of_other (hRest : s.rest = c :: rest) (hCode : c ∉ ['"', '\n', ',', '#', '@', '%'])
    (hHex : c = '0' → rest.head? ≠ some 'x') :
    step s = if isNumberPart c then readNumber s
      else if isLetter c then readWord s else (s.advanceTo rest, none) := by
  unfold step
  rw [hRest]
  split <;> grind

theorem step_insert (hRest : s.rest = c :: (cs ++ post)) (hStep : step s = (next, none))
    (hNext : next.rest = ds ++ post) (hPost : post ≠ []) (hDivides : Divides post') :
    step (s.advanceTo (c :: (cs ++ post'))) = (next.advanceTo (ds ++ post'), none) := by
  unfold step at hStep
  split at hStep
  · rename_i hCase
    rw [hRest] at hCase
    cases hCase
  · rename_i rest hCase
    obtain ⟨rfl, rfl⟩ := List.cons_eq_cons.mp (hRest.symm.trans hCase)
    cases hStep
    have hBody := stringBody_eq_of_rest post' hNext hPost
    simp only [step, State.advanceTo, readString, hBody]
    rfl
  · rename_i rest hCase
    obtain ⟨rfl, rfl⟩ := List.cons_eq_cons.mp (hRest.symm.trans hCase)
    cases hStep
    obtain rfl := List.append_cancel_right hNext
    rfl
  · rename_i digits hCase
    obtain ⟨rfl, hDigits⟩ := List.cons_eq_cons.mp (hRest.symm.trans hCase)
    cases hStep
    obtain ⟨cs, rfl, hHex⟩ := readHex_insert hDigits hNext hDivides
    exact congrArg (·, none) (hHex _)
  · rename_i rest hCase
    obtain ⟨rfl, rfl⟩ := List.cons_eq_cons.mp (hRest.symm.trans hCase)
    cases hStep
    obtain rfl := List.append_cancel_right hNext
    rfl
  · rename_i rest hCase
    obtain ⟨rfl, rfl⟩ := List.cons_eq_cons.mp (hRest.symm.trans hCase)
    exact readDeclaration_insert hStep hNext hDivides
  · rename_i rest hCase
    obtain ⟨rfl, rfl⟩ := List.cons_eq_cons.mp (hRest.symm.trans hCase)
    exact readShape_insert hStep hNext hDivides
  · rename_i rest hCase
    obtain ⟨rfl, rfl⟩ := List.cons_eq_cons.mp (hRest.symm.trans hCase)
    cases hStep
    have hAfter := afterComment_eq_of_rest post' hNext hPost
    simp only [step, State.advanceTo, hAfter]
  · rename_i c rest hQuote hBreak hHex hComma hSign hAt hPercent hCase
    obtain ⟨rfl, rfl⟩ := List.cons_eq_cons.mp (hRest.symm.trans hCase)
    have hWord : s.rest = (c :: cs) ++ post := hRest
    have hNew : step (s.advanceTo (c :: (cs ++ post'))) = _ := step_of_other rfl ?_ ?_
    · rw [hNew]
      split at hStep
      · rename_i hNumber
        rw [if_pos hNumber]
        exact readNumber_insert hWord hStep hNext hDivides
      split at hStep
      · rename_i hNumber hLetter
        rw [if_neg hNumber, if_pos hLetter]
        exact readWord_insert hWord hStep hNext hDivides
      · rename_i hNumber hLetter
        rw [if_neg hNumber, if_neg hLetter]
        cases hStep
        obtain rfl := List.append_cancel_right hNext
        rfl
    · simpa using ⟨hQuote, hBreak, hComma, hSign, hAt, hPercent⟩
    · rintro rfl hHead
      cases cs with
      | nil =>
        have hLetter := (hDivides 'x' hHead).1
        revert hLetter
        decide
      | cons d cs =>
        cases hHead
        exact hHex _ rfl rfl

/-! ## Runs -/

/-- A run up to `post` comes to `post'` in the same state if that is what it finds there. -/
theorem run_insert (hRest : s.rest = cs ++ post) (hRun : run steps s = (final, none))
    (hFinal : final.rest = post) (hPost : post ≠ []) (hDivides : Divides post') :
    run steps (s.advanceTo (cs ++ post')) = (final.advanceTo post', none) := by
  induction steps generalizing cs s with
  | zero =>
    cases hRun
    obtain rfl : cs = [] := List.append_left_eq_self.mp (hRest.symm.trans hFinal)
    rfl
  | succ steps ih =>
    obtain ⟨hNil, -⟩ | ⟨-, _, _, -, hDone⟩ | ⟨hSome, next, hNext, hDone⟩ := run_succ_cases hRun
    · exact absurd (List.append_eq_nil_iff.mp (hRest.symm.trans hNil)).2 hPost
    · cases hDone
    · have hLeft := run_suffix steps next
      have hTaken := step_suffix s
      rw [hDone, hFinal] at hLeft
      rw [hNext, hRest] at hTaken
      cases cs with
      | nil =>
        -- The step would have taken a character of `post`.
        have hLength := (hLeft.trans hTaken).length_le
        have hPositive := List.length_pos_iff.mpr hPost
        rw [List.nil_append, List.length_tail] at hLength
        omega
      | cons c cs =>
        obtain ⟨ds, hDs⟩ := hLeft
        rw [List.cons_append, run_succ_of_step (List.cons_ne_nil _ _)
          (step_insert hRest hNext hDs.symm hPost hDivides)]
        exact ih hDs.symm hDone

/-- Closed comments, and characters that begin no token and are no line break, blanks among
them. -/
inductive Inert : List Char → Prop
  | nil : Inert []
  | char {c : Char} {cs : List Char} : beginsToken c = false → c ≠ '\n' → Inert cs → Inert (c :: cs)
  | comment {text cs : List Char} : (∀ c ∈ text, c ≠ '%') → Inert cs →
      Inert ('%' :: (text ++ '%' :: cs))

theorem beginsToken_of_isHexDigit (h : isHexDigit c) : beginsToken c := by
  have hAll : Text.hexDigits.all beginsToken := by decide
  exact List.all_eq_true.mp hAll c (Text.mem_hexDigits h)

theorem divides_of_beginsToken (h : beginsToken c = false) : Divides (c :: cs) := by
  rintro d ⟨⟩
  have hHex := mt beginsToken_of_isHexDigit (Bool.eq_false_iff.mp h)
  simp only [beginsToken, Bool.or_eq_false_iff] at h
  exact ⟨h.1.1, h.1.2, Bool.eq_false_iff.mpr hHex⟩

theorem Inert.divides (h : Inert u) (hSome : u ≠ []) : Divides (u ++ post) := by
  cases h with
  | nil => exact absurd rfl hSome
  | char hBegins _ _ => exact divides_of_beginsToken hBegins
  | comment _ _ =>
    rintro c ⟨⟩
    decide

theorem step_inert (hRest : s.rest = c :: rest) (hBegins : beginsToken c = false)
    (hBreak : c ≠ '\n') : step s = (s.advanceTo rest, none) := by
  simp only [beginsToken, Bool.or_eq_false_iff] at hBegins
  obtain ⟨⟨hLetter, hNumber⟩, hOther⟩ := hBegins
  rw [step_of_other hRest, if_neg (by simp [hNumber]), if_neg (by simp [hLetter])]
  · simpa [hBreak] using hOther
  · rintro rfl
    cases hNumber

theorem afterComment_closed (h : ∀ c ∈ text, c ≠ '%') (rest : List Char) :
    afterComment (text ++ '%' :: rest) = rest := by
  have hInside : ∀ c ∈ text, (c != '%') = true := fun c hMem => bne_iff_ne.mpr (h c hMem)
  rw [afterComment, List.dropWhile_append_of_pos hInside]
  rfl

/-- Inert text is passed over and leaves the state as it was. -/
theorem Inert.exists_run (h : Inert u) (hRest : s.rest = u ++ post) :
    ∃ steps, run steps s = (s.advanceTo post, none) := by
  induction h generalizing s with
  | nil =>
    obtain rfl : post = s.rest := hRest.symm
    exact ⟨0, rfl⟩
  | @char c cs hBegins hBreak _ ih =>
    have hSome : s.rest ≠ [] := by
      rw [hRest]
      exact List.cons_ne_nil _ _
    obtain ⟨steps, hRun⟩ := ih (s := s.advanceTo (cs ++ post)) rfl
    have hStep := step_inert hRest hBegins hBreak
    exact ⟨steps + 1, (run_succ_of_step hSome hStep steps).trans hRun⟩
  | @comment text cs hText _ ih =>
    have hClosed : s.rest = '%' :: (text ++ '%' :: (cs ++ post)) := by
      rw [hRest, List.cons_append, List.append_assoc, List.cons_append]
    have hSome : s.rest ≠ [] := by
      rw [hClosed]
      exact List.cons_ne_nil _ _
    have hStep : step s = (s.advanceTo (cs ++ post), none) := by
      rw [step, hClosed]
      simp only [afterComment_closed hText]
    obtain ⟨steps, hRun⟩ := ih (s := s.advanceTo (cs ++ post)) rfl
    exact ⟨steps + 1, (run_succ_of_step hSome hStep steps).trans hRun⟩

def insertAt (source : String) (position : Nat) (u : String) : String :=
  String.ofList (source.toList.take position ++ (u.toList ++ source.toList.drop position))

theorem insertAt_of_nil {source u : String} (position : Nat) (h : u.toList = []) :
    insertAt source position u = source := by
  rw [insertAt, h, List.nil_append, List.take_append_drop, String.ofList_toList]

theorem start_insertAt (source : String) (position : Nat) (u : String) :
    State.start (insertAt source position u) = (State.start source).advanceTo
      (source.toList.take position ++ (u.toList ++ source.toList.drop position)) := by
  rw [State.start, insertAt, String.toList_ofList]
  rfl

/-- Where a step of the scan begins, inert text can be put in or left out: the scan ends in the same
state, and with the same fault if there is one. -/
theorem scan_insertAt {source u : String} {position : Nat}
    (hRun : run steps (State.start source) = (s, none))
    (hHere : s.rest = source.toList.drop position) (hPosition : position < source.toList.length)
    (hInert : Inert u.toList) : scan (insertAt source position u) = scan source := by
  by_cases hSome : u.toList = []
  · rw [insertAt_of_nil position hSome]
  · have hPost : source.toList.drop position ≠ [] := mt List.drop_eq_nil_iff.mp (by omega)
    have hSplit : (State.start source).rest =
        source.toList.take position ++ source.toList.drop position :=
      (List.take_append_drop ..).symm
    have hDivides : Divides (u.toList ++ source.toList.drop position) := hInert.divides hSome
    have hBefore := run_insert hSplit hRun hHere hPost hDivides
    obtain ⟨more, hInside⟩ := hInert.exists_run
      (s := s.advanceTo (u.toList ++ source.toList.drop position)) rfl
    have hBack : run (steps + more) (State.start (insertAt source position u)) = (s, none) := by
      rw [start_insertAt, run_add hBefore, hInside, ← hHere]
      rfl
    rw [scan_eq_run hBack (Nat.le_refl _), scan_eq_run hRun (Nat.le_refl _)]

/-- A word and a sign, put apart by a semicolon and a comment that hides a quote, a line break and a
name. -/
theorem scan_insertAt_words :
    run 1 (State.start "max#") = (⟨['#'], 1, #[⟨1, .keyword, "max"⟩], #[]⟩, none) ∧
      Inert "; %\"\n#root%\t".toList ∧
      scan "max; %\"\n#root%\t#" =
        (⟨[], 1, #[⟨1, .keyword, "max"⟩], #[]⟩, some ⟨.unknownDeclaration "", 1⟩) := by
  have hRun : run 1 (State.start "max#") =
      (⟨['#'], 1, #[⟨1, .keyword, "max"⟩], #[]⟩, none) := by
    cbv
  have hOpen : '%' ∉ "\"\n#root".toList := by decide
  have hText : ∀ c ∈ "\"\n#root".toList, c ≠ '%' := fun c hMem => ne_of_mem_of_not_mem hMem hOpen
  have hInert : Inert "; %\"\n#root%\t".toList :=
    .char (by decide) (by decide) <| .char (by decide) (by decide) <| .comment hText <|
      .char (by decide) (by decide) .nil
  have hHere : ['#'] = "max#".toList.drop 3 := rfl
  have hScan := scan_insertAt hRun hHere (by decide) hInert
  refine ⟨hRun, hInert, ?_⟩
  calc scan "max; %\"\n#root%\t#"
    _ = scan (insertAt "max#" 3 "; %\"\n#root%\t") := congrArg scan (by decide)
    _ = scan "max#" := hScan
    _ = _ := by decide +kernel

end PlotLang.Lexer
