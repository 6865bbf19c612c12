import PlotLang.Expression.Vocabulary

/-! # The scan of a function, character by character

The scan takes a whole number or name at a time. To compare it with a reader that cuts the text at
other points, what it accepts is followed from one character to the next: between two of its
lexemes, in the digits before or after the point of a number, or in the letters of a name.
-/

namespace PlotLang.Text

variable {ranges : List (Nat × Nat)} {n : Nat} {c : Char}

theorem exists_of_inRanges (h : inRanges ranges n) : ∃ r ∈ ranges, r.1 ≤ n ∧ n ≤ r.2 := by
  induction ranges with
  | nil => cases h
  | cons r ranges ih =>
    obtain ⟨first, last⟩ := r
    rw [inRanges] at h
    split at h
    · cases h
    · rename_i hFirst
      simp only [Bool.or_eq_true, decide_eq_true_eq] at h
      obtain hLast | hRest := h
      · exact ⟨_, List.mem_cons_self, Nat.le_of_not_lt hFirst, hLast⟩
      · obtain ⟨r, hMem, hBounds⟩ := ih hRest
        exact ⟨r, List.mem_cons_of_mem _ hMem, hBounds⟩

/-- A character is not in two tables whose ranges do not meet. -/
theorem inRanges_disjoint {others : List (Nat × Nat)} (h : inRanges ranges n)
    (hApart : ∀ r ∈ ranges, ∀ s ∈ others, r.2 < s.1 ∨ s.2 < r.1) : inRanges others n = false := by
  refine Bool.eq_false_iff.mpr fun hOther => ?_
  obtain ⟨r, hR, hLow, hHigh⟩ := exists_of_inRanges h
  obtain ⟨s, hS, hLow', hHigh'⟩ := exists_of_inRanges hOther
  obtain hBelow | hAbove := hApart r hR s hS
  · omega
  · omega

theorem isBlank_eq_false_of_isDecimalDigit (h : isDecimalDigit c) : isBlank c = false :=
  inRanges_disjoint h (by decide)

end PlotLang.Text

namespace PlotLang.Expression.Vocabulary

open Text

variable {c : Char} {cs after letters : List Char} {fuel : Nat}

def letterRanges : List (Nat × Nat) := [(65, 90), (97, 122)]

theorem inRanges_of_isAsciiLetter (h : isAsciiLetter c) : inRanges letterRanges c.toNat := by
  simp only [isAsciiLetter, Bool.or_eq_true, Bool.and_eq_true, decide_eq_true_eq] at h
  have hBounds : (97 ≤ c.toNat ∧ c.toNat ≤ 122) ∨ (65 ≤ c.toNat ∧ c.toNat ≤ 90) := h
  simp only [letterRanges, inRanges]
  grind

theorem isBlank_eq_false_of_isAsciiLetter (h : isAsciiLetter c) : isBlank c = false :=
  inRanges_disjoint (inRanges_of_isAsciiLetter h) (by decide)

theorem isAsciiLetter_eq_false_of_isDecimalDigit (h : isDecimalDigit c) :
    isAsciiLetter c = false := by
  have hApart : inRanges letterRanges c.toNat = false := inRanges_disjoint h (by decide)
  refine Bool.eq_false_iff.mpr fun hLetter => ?_
  rw [inRanges_of_isAsciiLetter hLetter] at hApart
  cases hApart

theorem isDecimalDigit_eq_false_of_isAsciiLetter (h : isAsciiLetter c) :
    isDecimalDigit c = false := by
  refine Bool.eq_false_iff.mpr fun hDigit => ?_
  rw [isAsciiLetter_eq_false_of_isDecimalDigit hDigit] at h
  cases h

theorem checkName_eq_ok_iff {name : String} : checkName name cs = .ok () ↔
    name ∈ constantNames ∨ name ∈ functionNames ∧ isCalled cs := by
  rw [checkName]
  simp only [Bool.or_eq_true, Bool.and_eq_true, decide_eq_true_eq]
  split
  · rename_i hKnown
    simpa [and_comm] using hKnown
  · rename_i hUnknown
    simpa [and_comm] using hUnknown

/-! ## Acceptance -/

/-- The scan takes a whole text. -/
def Accepts (cs : List Char) : Prop := ∃ fuel, cs.length ≤ fuel ∧ scan fuel cs = .ok ()

inductive Place where
  | between
  | whole
  | fraction
  | name (letters : List Char)

/-- What is left is accepted where the scan stands. -/
def At : Place → List Char → Prop
  | .between, cs => Accepts cs
  | .whole, cs => Accepts (afterNumber cs)
  | .fraction, cs => Accepts (cs.dropWhile isDecimalDigit)
  | .name letters, cs =>
    checkName (String.ofList (letters ++ cs.takeWhile isAsciiLetter))
        (cs.dropWhile isAsciiLetter) = .ok () ∧
      Accepts (cs.dropWhile isAsciiLetter)

theorem ne_point_of_isDecimalDigit (h : isDecimalDigit c) : c ≠ '.' := by
  rintro rfl
  exact absurd h (by decide)

theorem afterNameless?_of_ne_point (hPoint : c ≠ '.') : afterNameless? (c :: cs) =
    if isDecimalDigit c then some (afterNumber cs)
    else if isOperator c then some cs
    else none := by
  rw [afterNameless?.eq_def]
  split
  · rename_i hCons
    exact absurd (List.cons.inj hCons).1 hPoint
  · rename_i hCons
    cases hCons
    rfl
  · rename_i hNil
    cases hNil

theorem afterNumber_suffix (cs : List Char) : afterNumber cs <:+ cs := by
  have hWhole := List.dropWhile_suffix isDecimalDigit (l := cs)
  rw [afterNumber]
  split
  · rename_i fraction hFraction
    rw [hFraction] at hWhole
    exact (List.dropWhile_suffix _).trans ((List.suffix_cons _ _).trans hWhole)
  · exact hWhole

theorem afterNameless?_suffix (h : afterNameless? (c :: cs) = some after) : after <:+ cs := by
  by_cases hPoint : c = '.'
  · subst hPoint
    cases cs with
    | nil => cases h
    | cons d ds =>
      rw [afterNameless?] at h
      split at h
      · cases h
        exact (List.dropWhile_suffix _).trans (List.suffix_cons _ _)
      · cases h
  · rw [afterNameless?_of_ne_point hPoint] at h
    split at h
    · cases h
      exact afterNumber_suffix cs
    · split at h
      · cases h
        exact List.suffix_rfl
      · cases h

theorem Accepts.exists_scan (h : Accepts (c :: cs)) :
    ∃ fuel, cs.length ≤ fuel ∧ scan (fuel + 1) (c :: cs) = .ok () := by
  obtain ⟨fuel, hFuel, hScan⟩ := h
  cases fuel with
  | zero => cases hFuel
  | succ fuel => exact ⟨fuel, Nat.le_of_succ_le_succ hFuel, hScan⟩

theorem trimLeft_eq_self (hBlank : isBlank c = false) : trimLeft (c :: cs) = c :: cs := by
  rw [trimLeft, List.dropWhile_cons_of_neg (by simp [hBlank])]

theorem scan_letter (hLetter : isAsciiLetter c) : scan (fuel + 1) (c :: cs) =
    (checkName (String.ofList (c :: cs.takeWhile isAsciiLetter)) (cs.dropWhile isAsciiLetter) >>=
      fun _ => scan fuel (cs.dropWhile isAsciiLetter)) := by
  have hTrim : trimLeft (c :: cs) = c :: cs :=
    trimLeft_eq_self (isBlank_eq_false_of_isAsciiLetter hLetter)
  simp only [scan, hTrim, hLetter, if_true, List.takeWhile_cons, List.dropWhile_cons,
    List.isEmpty_cons, Bool.false_eq_true, if_false]

theorem scan_nameless (hBlank : isBlank c = false) (hLetter : isAsciiLetter c = false) :
    scan (fuel + 1) (c :: cs) =
      (afterNameless? (c :: cs)).elim (.error (.unexpectedCharacter (String.singleton c)))
        (scan fuel) := by
  have hTrim : trimLeft (c :: cs) = c :: cs := trimLeft_eq_self hBlank
  cases hAfter : afterNameless? (c :: cs) <;> simp [scan, hTrim, hLetter, hAfter]

theorem scan_nil : scan fuel [] = .ok () := by
  cases fuel <;> rfl

theorem scan_blank (hBlank : isBlank c) (hSome : cs ≠ []) :
    scan (fuel + 1) (c :: cs) = scan (fuel + 1) cs := by
  simp only [scan, trimLeft, List.dropWhile_cons, hBlank, if_true, List.isEmpty_cons,
    List.isEmpty_eq_false_iff.mpr hSome, Bool.false_eq_true, if_false]

theorem Accepts.of_blank (h : Accepts (c :: cs)) (hBlank : isBlank c) : Accepts cs := by
  obtain ⟨fuel, hFuel, hScan⟩ := h.exists_scan
  by_cases hSome : cs = []
  · exact ⟨0, by simp [hSome], hSome ▸ scan_nil⟩
  · exact ⟨fuel + 1, Nat.le_succ_of_le hFuel, (scan_blank hBlank hSome).symm.trans hScan⟩

theorem Accepts.of_letter (h : Accepts (c :: cs)) (hLetter : isAsciiLetter c) :
    At (.name [c]) cs := by
  obtain ⟨fuel, hFuel, hScan⟩ := h.exists_scan
  rw [scan_letter hLetter] at hScan
  cases hCheck : checkName (String.ofList (c :: cs.takeWhile isAsciiLetter))
      (cs.dropWhile isAsciiLetter) with
  | error fault =>
    rw [hCheck] at hScan
    cases hScan
  | ok _ =>
    rw [hCheck] at hScan
    exact ⟨hCheck, fuel, Nat.le_trans (List.dropWhile_sublist _).length_le hFuel, hScan⟩

/-- A lexeme that is not a name is left out. -/
theorem Accepts.of_nameless (h : Accepts (c :: cs)) (hBlank : isBlank c = false)
    (hLetter : isAsciiLetter c = false) :
    ∃ after, afterNameless? (c :: cs) = some after ∧ Accepts after := by
  obtain ⟨fuel, hFuel, hScan⟩ := h.exists_scan
  rw [scan_nameless hBlank hLetter] at hScan
  cases hAfter : afterNameless? (c :: cs) with
  | none =>
    rw [hAfter] at hScan
    cases hScan
  | some after =>
    rw [hAfter] at hScan
    exact ⟨after, rfl, fuel, Nat.le_trans (afterNameless?_suffix hAfter).length_le hFuel, hScan⟩

theorem Accepts.of_digit (h : Accepts (c :: cs)) (hDigit : isDecimalDigit c) : At .whole cs := by
  obtain ⟨after, hAfter, hAccepts⟩ := h.of_nameless
    (isBlank_eq_false_of_isDecimalDigit hDigit) (isAsciiLetter_eq_false_of_isDecimalDigit hDigit)
  rw [afterNameless?_of_ne_point (ne_point_of_isDecimalDigit hDigit), if_pos hDigit] at hAfter
  cases hAfter
  exact hAccepts

theorem Accepts.of_point (h : Accepts ('.' :: cs)) :
    (∃ d ∈ cs.head?, isDecimalDigit d) ∧ At .fraction cs := by
  obtain ⟨after, hAfter, hAccepts⟩ := h.of_nameless (by decide) (by decide)
  cases cs with
  | nil => cases hAfter
  | cons d ds =>
    rw [afterNameless?] at hAfter
    split at hAfter
    · rename_i hDigit
      cases hAfter
      refine ⟨⟨d, rfl, hDigit⟩, ?_⟩
      rw [At, List.dropWhile_cons_of_pos hDigit]
      exact hAccepts
    · cases hAfter

theorem Accepts.of_other (h : Accepts (c :: cs)) (hLetter : isAsciiLetter c = false)
    (hDigit : isDecimalDigit c = false) (hPoint : c ≠ '.') :
    (isBlank c ∨ isOperator c) ∧ Accepts cs := by
  cases hBlank : isBlank c with
  | true => exact ⟨.inl rfl, h.of_blank hBlank⟩
  | false =>
    obtain ⟨after, hAfter, hAccepts⟩ := h.of_nameless hBlank hLetter
    rw [afterNameless?_of_ne_point hPoint, if_neg (by simp [hDigit])] at hAfter
    split at hAfter
    · rename_i hOperator
      cases hAfter
      exact ⟨.inr hOperator, hAccepts⟩
    · cases hAfter

/-! ## Steps -/

variable {place : Place}

theorem at_digit (h : At place (c :: cs)) (hDigit : isDecimalDigit c) :
    At .whole cs ∨ At .fraction cs := by
  cases place with
  | between => exact .inl (Accepts.of_digit h hDigit)
  | whole =>
    have hSame : afterNumber (c :: cs) = afterNumber cs := by
      rw [afterNumber, List.dropWhile_cons_of_pos hDigit, afterNumber]
    rw [At, hSame] at h
    exact .inl h
  | fraction =>
    rw [At, List.dropWhile_cons_of_pos hDigit] at h
    exact .inr h
  | name letters =>
    -- the digit ends the name here, also where a piece goes on with it
    obtain ⟨-, hRest⟩ := h
    rw [List.dropWhile_cons_of_neg
      (by simp [isAsciiLetter_eq_false_of_isDecimalDigit hDigit])] at hRest
    exact .inl (hRest.of_digit hDigit)

theorem afterNumber_eq_self (hDigit : isDecimalDigit c = false) (hPoint : c ≠ '.') :
    afterNumber (c :: cs) = c :: cs := by
  rw [afterNumber, List.dropWhile_cons_of_neg (by simp [hDigit])]
  split
  · rename_i hCons
    exact absurd (List.cons.inj hCons).1 hPoint
  · rfl

theorem accepts_of_at (h : At place (c :: cs)) (hDigit : isDecimalDigit c = false)
    (hName : ∀ letters, place = .name letters → isAsciiLetter c = false)
    (hWhole : place = .whole → c ≠ '.') : Accepts (c :: cs) := by
  cases place with
  | between => exact h
  | whole => rwa [At, afterNumber_eq_self hDigit (hWhole rfl)] at h
  | fraction => rwa [At, List.dropWhile_cons_of_neg (by simp [hDigit])] at h
  | name letters =>
    rw [At, List.dropWhile_cons_of_neg (by simp [hName letters rfl])] at h
    exact h.2

theorem accepts_of_at_other (h : At place (c :: cs)) (hLetter : isAsciiLetter c = false)
    (hDigit : isDecimalDigit c = false) (hPoint : c ≠ '.') :
    (isBlank c ∨ isOperator c) ∧ Accepts cs := by
  have hAccepts : Accepts (c :: cs) :=
    accepts_of_at h hDigit (fun _ _ => hLetter) (fun _ => hPoint)
  exact hAccepts.of_other hLetter hDigit hPoint

/-- A letter begins a name, unless it goes on with one. -/
theorem at_letter (h : At place (c :: cs)) (hLetter : isAsciiLetter c) :
    ∃ letters, At (.name letters) cs := by
  have hDigit := isDecimalDigit_eq_false_of_isAsciiLetter hLetter
  by_cases hName : ∃ letters, place = .name letters
  · obtain ⟨letters, rfl⟩ := hName
    refine ⟨letters ++ [c], ?_⟩
    rw [At, List.takeWhile_cons_of_pos hLetter, List.dropWhile_cons_of_pos hLetter] at h
    rwa [At, List.append_assoc, List.singleton_append]
  · have hAccepts : Accepts (c :: cs) := by
      refine accepts_of_at h hDigit (fun letters hPlace => absurd ⟨letters, hPlace⟩ hName) ?_
      rintro - rfl
      exact absurd hLetter (by decide)
    exact ⟨[c], hAccepts.of_letter hLetter⟩

theorem at_point (h : At place ('.' :: cs)) : At .fraction cs := by
  by_cases hWhole : place = .whole
  · subst hWhole
    exact h
  · have hAccepts : Accepts ('.' :: cs) :=
      accepts_of_at h (by decide) (fun _ _ => by decide) (fun hPlace => absurd hPlace hWhole)
    exact hAccepts.of_point.2

theorem Accepts.trimRight_of_blank (h : Accepts (trimRight (c :: cs))) (hBlank : isBlank c) :
    Accepts (trimRight cs) := by
  rw [trimRight, List.reverse_cons, List.dropWhile_append] at h
  split at h
  · rename_i hEmpty
    rw [trimRight, List.isEmpty_iff.mp hEmpty]
    exact ⟨0, Nat.le_refl _, rfl⟩
  · rw [List.reverse_append] at h
    exact Accepts.of_blank h hBlank

theorem Accepts.trim (h : Accepts (trimRight cs)) : Accepts (trim cs) := by
  induction cs with
  | nil => exact h
  | cons c cs ih =>
    rw [Text.trim, trimLeft]
    cases hBlank : isBlank c with
    | true =>
      rw [List.dropWhile_cons_of_pos hBlank]
      exact ih (h.trimRight_of_blank hBlank)
    | false => rwa [List.dropWhile_cons_of_neg (by simp [hBlank])]

/-- What has passed the check is accepted without the blanks before it, too. -/
theorem accepts_of_check {text : String} (h : check text = .ok ()) :
    Accepts (trim text.toList) :=
  Accepts.trim ⟨_, Nat.le_refl _, h⟩

end PlotLang.Expression.Vocabulary
