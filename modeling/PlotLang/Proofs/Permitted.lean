import PlotLang.Expression
import PlotLang.Proofs.Runs

/-! # What the scan of a function permits

The scan cuts a lexeme at a time from the front of a text. What it permits is said of the text as a
whole: of its characters, of its maximal runs of letters and of its maximal runs of digits and
points. A run of digits and points is cut at every second point, so all its numbers but the first
begin with a point.
-/

namespace PlotLang.Expression.Vocabulary

open Text

variable {p : Char → Bool} {c : Char} {cs run rest after word : List Char}

/-! ## The steps of the scan -/

/-- The answer of the scan, a lexeme at a time. -/
inductive Scans : List Char → Except Fault Unit → Prop
  | done : Scans [] (.ok ())
  | lastBlank {c : Char} (hBlank : isBlank c) : Scans [c] (.error (.unexpectedCharacter ""))
  | blank {c : Char} {cs : List Char} {answer : Except Fault Unit} (hBlank : isBlank c)
      (hSome : cs ≠ []) (hRest : Scans cs answer) : Scans (c :: cs) answer
  | name {c : Char} {cs : List Char} {answer : Except Fault Unit} (hLetter : isAsciiLetter c)
      (hKnown : checkName (String.ofList (c :: cs.takeWhile isAsciiLetter))
        (cs.dropWhile isAsciiLetter) = .ok ())
      (hRest : Scans (cs.dropWhile isAsciiLetter) answer) : Scans (c :: cs) answer
  | unknown {c : Char} {cs : List Char} {fault : Fault} (hLetter : isAsciiLetter c)
      (hUnknown : checkName (String.ofList (c :: cs.takeWhile isAsciiLetter))
        (cs.dropWhile isAsciiLetter) = .error fault) : Scans (c :: cs) (.error fault)
  | nameless {c : Char} {cs after : List Char} {answer : Except Fault Unit}
      (hBlank : isBlank c = false) (hLetter : isAsciiLetter c = false)
      (hAfter : afterNameless? (c :: cs) = some after) (hRest : Scans after answer) :
      Scans (c :: cs) answer
  | unexpected {c : Char} {cs : List Char} (hBlank : isBlank c = false)
      (hLetter : isAsciiLetter c = false) (hAfter : afterNameless? (c :: cs) = none) :
      Scans (c :: cs) (.error (.unexpectedCharacter (String.singleton c)))

/-- With enough fuel the scan follows the steps. -/
theorem scans_scan {fuel : Nat} (hFuel : cs.length ≤ fuel) : Scans cs (scan fuel cs) := by
  induction hLength : cs.length using Nat.strong_induction_on generalizing cs fuel with
  | _ length ih =>
    cases cs with
    | nil =>
      rw [scan_nil]
      exact .done
    | cons c cs =>
      rw [List.length_cons] at hFuel hLength
      obtain ⟨fuel, rfl⟩ : ∃ less, fuel = less + 1 := ⟨fuel - 1, by omega⟩
      cases hBlank : isBlank c with
      | true =>
        by_cases hSome : cs = []
        · subst hSome
          have hError : scan (fuel + 1) [c] = .error (.unexpectedCharacter "") := by
            simp [scan, trimLeft, hBlank]
          rw [hError]
          exact .lastBlank hBlank
        · rw [scan_blank hBlank hSome]
          exact .blank hBlank hSome (ih cs.length (by omega) (by omega) rfl)
      | false =>
        cases hLetter : isAsciiLetter c with
        | true =>
          have hRest := (List.dropWhile_sublist isAsciiLetter (l := cs)).length_le
          rw [scan_letter hLetter]
          cases hCheck : checkName (String.ofList (c :: cs.takeWhile isAsciiLetter))
              (cs.dropWhile isAsciiLetter) with
          | error fault => exact .unknown hLetter hCheck
          | ok _ => exact .name hLetter hCheck (ih _ (by omega) (by omega) rfl)
        | false =>
          rw [scan_nameless hBlank hLetter]
          cases hAfter : afterNameless? (c :: cs) with
          | none => exact .unexpected hBlank hLetter hAfter
          | some after =>
            have hRest := (afterNameless?_suffix hAfter).length_le
            exact .nameless hBlank hLetter hAfter (ih _ (by omega) (by omega) rfl)

theorem Scans.unique {answer other : Except Fault Unit} (h : Scans cs answer)
    (hOther : Scans cs other) : answer = other := by
  have hApart := @isBlank_eq_false_of_isAsciiLetter
  induction h with
  | done =>
    cases hOther
    rfl
  | lastBlank hBlank => cases hOther <;> grind
  | blank hBlank hSome _ ih => cases hOther <;> grind [Scans]
  | name hLetter hKnown _ ih => cases hOther <;> grind
  | unknown hLetter hUnknown => cases hOther <;> grind
  | nameless hBlank hLetter hAfter _ ih => cases hOther <;> grind
  | unexpected hBlank hLetter hAfter => cases hOther <;> grind

theorem scans_check (text : String) : Scans (trimRight text.toList) (check text) :=
  scans_scan (Nat.le_refl _)

/-! ## Acceptance, a block at a time -/

theorem accepts_iff_scans : Accepts cs ↔ Scans cs (.ok ()) := by
  constructor
  · rintro ⟨fuel, hFuel, hScan⟩
    exact hScan ▸ scans_scan hFuel
  · intro h
    exact ⟨cs.length, Nat.le_refl _, (scans_scan (Nat.le_refl _)).unique h⟩

theorem Accepts.nameless (h : Accepts after) (hBlank : isBlank c = false)
    (hLetter : isAsciiLetter c = false) (hAfter : afterNameless? (c :: cs) = some after) :
    Accepts (c :: cs) :=
  accepts_iff_scans.mpr (.nameless hBlank hLetter hAfter (accepts_iff_scans.mp h))

theorem accepts_nil : Accepts [] := accepts_iff_scans.mpr .done

theorem accepts_blank (hBlank : isBlank c) (hSome : cs ≠ []) : Accepts (c :: cs) ↔ Accepts cs := by
  refine ⟨fun h => h.of_blank hBlank, fun h => ?_⟩
  exact accepts_iff_scans.mpr (.blank hBlank hSome (accepts_iff_scans.mp h))

theorem accepts_letter (hLetter : isAsciiLetter c) : Accepts (c :: cs) ↔
    checkName (String.ofList (c :: cs.takeWhile isAsciiLetter)) (cs.dropWhile isAsciiLetter) =
      .ok () ∧ Accepts (cs.dropWhile isAsciiLetter) := by
  refine ⟨fun h => h.of_letter hLetter, fun ⟨hKnown, hRest⟩ => ?_⟩
  exact accepts_iff_scans.mpr (.name hLetter hKnown (accepts_iff_scans.mp hRest))

theorem accepts_digit (hDigit : isDecimalDigit c) :
    Accepts (c :: cs) ↔ Accepts (afterNumber cs) := by
  refine ⟨fun h => h.of_digit hDigit, fun h => ?_⟩
  refine h.nameless (isBlank_eq_false_of_isDecimalDigit hDigit)
    (isAsciiLetter_eq_false_of_isDecimalDigit hDigit) ?_
  rw [afterNameless?_of_ne_point (ne_point_of_isDecimalDigit hDigit), if_pos hDigit]

theorem accepts_point : Accepts ('.' :: cs) ↔
    cs.takeWhile isDecimalDigit ≠ [] ∧ Accepts (cs.dropWhile isDecimalDigit) := by
  cases cs with
  | nil => exact iff_of_false (fun h => by simpa using h.of_point.1) (fun h => h.1 rfl)
  | cons d ds =>
    cases hDigit : isDecimalDigit d with
    | true =>
      have hTaken : (d :: ds).takeWhile isDecimalDigit ≠ [] := by simp [hDigit]
      refine ⟨fun h => ⟨hTaken, h.of_point.2⟩, fun ⟨_, hRest⟩ => ?_⟩
      rw [List.dropWhile_cons_of_pos hDigit] at hRest
      exact hRest.nameless (by decide) (by decide) (if_pos hDigit)
    | false => exact iff_of_false (fun h => by simpa [hDigit] using h.of_point.1) (by simp [hDigit])

theorem isNameless_of_isOperator (hOperator : isOperator c) : isBlank c = false ∧
    isAsciiLetter c = false ∧ isDecimalDigit c = false ∧ c ≠ '.' := by
  have hAll : "+-*/^(),".toList.all fun c =>
      !isBlank c && !isAsciiLetter c && !isDecimalDigit c && c != '.' := by decide
  simpa [and_assoc] using List.all_eq_true.mp hAll c (List.contains_iff_mem.mp hOperator)

theorem accepts_operator (hOperator : isOperator c) : Accepts (c :: cs) ↔ Accepts cs := by
  obtain ⟨hBlank, hLetter, hDigit, hPoint⟩ := isNameless_of_isOperator hOperator
  refine ⟨fun h => (h.of_other hLetter hDigit hPoint).2, fun h => h.nameless hBlank hLetter ?_⟩
  rw [afterNameless?_of_ne_point hPoint, if_neg (by simp [hDigit]), if_pos hOperator]

theorem accepts_tails (hAll : ∀ c ∈ run, isNumeric c) (hHead : ∀ c ∈ run.head?, c = '.')
    (hRight : ∀ c ∈ rest.head?, isNumeric c = false) :
    Accepts (run ++ rest) ↔ run ∈ Numerals.tails ∧ Accepts rest := by
  have hDigits : ∀ c ∈ rest.head?, isDecimalDigit c = false := fun c hFirst =>
    (isNumeric_eq_false_iff.mp (hRight c hFirst)).1
  induction hLength : run.length using Nat.strong_induction_on generalizing run with
  | _ length ih =>
    cases run with
    | nil => exact (and_iff_right Numerals.nil_mem_tails).symm
    | cons c word =>
      obtain rfl := hHead c rfl
      have hWord := (List.forall_mem_cons.mp hAll).2
      have hSub := List.dropWhile_sublist isDecimalDigit (l := word)
      have hShorter := hSub.length_le
      rw [List.length_cons] at hLength
      rw [List.cons_append, accepts_point, Numerals.point_mem_tails, takeWhile_append hDigits,
        dropWhile_append hDigits, and_assoc]
      exact and_congr_right fun _ => ih _ (by omega) (fun d hMem => hWord d (hSub.subset hMem))
        (head?_dropWhile_numeric hWord) rfl

theorem accepts_numerals (hNonempty : run ≠ []) (hAll : ∀ c ∈ run, isNumeric c)
    (hRight : ∀ c ∈ rest.head?, isNumeric c = false) :
    Accepts (run ++ rest) ↔ run ∈ numerals ∧ Accepts rest := by
  obtain ⟨c, word, rfl⟩ := List.exists_cons_of_ne_nil hNonempty
  obtain ⟨hFirst, hWord⟩ := List.forall_mem_cons.mp hAll
  cases hDigit : isDecimalDigit c with
  | true =>
    rw [List.cons_append, accepts_digit hDigit, Numerals.digit_mem_numerals hDigit,
      afterNumber_append hRight]
    obtain ⟨hRest, hHead⟩ := afterNumber_numeric hWord
    exact accepts_tails hRest hHead hRight
  | false =>
    obtain rfl : c = '.' := by simpa [isNumeric, hDigit] using hFirst
    rw [Numerals.point_mem_numerals]
    exact accepts_tails hAll (by rintro _ ⟨⟩; rfl) hRight

/-! ## The permitted texts -/

def IsPermitted (c : Char) : Prop :=
  isBlank c ∨ isDecimalDigit c ∨ isAsciiLetter c ∨ c = '.' ∨ c ∈ "+-*/^(),".toList

/-- A name of the vocabulary; behind that of a function, the next character that is not blank is
an opening parenthesis. -/
def IsKnown (name after : List Char) : Prop :=
  String.ofList name ∈ constantNames ∨
    String.ofList name ∈ functionNames ∧ after.find? (!isBlank ·) = some '('

structure Permitted (cs : List Char) : Prop where
  characters : ∀ c ∈ cs, IsPermitted c
  names : EachRun isAsciiLetter IsKnown cs
  numbers : EachRun isNumeric (fun run _ => run ∈ numerals) cs

theorem find?_not_eq (p : Char → Bool) (cs : List Char) :
    cs.find? (!p ·) = (cs.dropWhile p).head? := by
  induction cs with
  | nil => rfl
  | cons c cs ih => cases h : p c <;> simp [h, ih]

theorem isKnown_iff : IsKnown word after ↔ checkName (String.ofList word) after = .ok () := by
  rw [checkName_eq_ok_iff, IsKnown, isCalled, trimLeft, find?_not_eq, decide_eq_true_iff]

theorem permitted_nil : Permitted [] := ⟨List.forall_mem_nil _, eachRun_nil, eachRun_nil⟩

theorem permitted_cons (hPermitted : IsPermitted c) (hLetter : isAsciiLetter c = false)
    (hNumeric : isNumeric c = false) : Permitted (c :: cs) ↔ Permitted cs := by
  constructor
  · rintro ⟨hCharacters, hNames, hNumbers⟩
    exact ⟨(List.forall_mem_cons.mp hCharacters).2, (eachRun_cons hLetter).mp hNames,
      (eachRun_cons hNumeric).mp hNumbers⟩
  · rintro ⟨hCharacters, hNames, hNumbers⟩
    exact ⟨List.forall_mem_cons.mpr ⟨hPermitted, hCharacters⟩, (eachRun_cons hLetter).mpr hNames,
      (eachRun_cons hNumeric).mpr hNumbers⟩

theorem isNumeric_eq_false_of_isAsciiLetter (hLetter : isAsciiLetter c) : isNumeric c = false := by
  refine isNumeric_eq_false_iff.mpr ⟨isDecimalDigit_eq_false_of_isAsciiLetter hLetter, ?_⟩
  rintro rfl
  exact absurd hLetter (by decide)

theorem isAsciiLetter_eq_false_of_isNumeric (hNumeric : isNumeric c) :
    isAsciiLetter c = false := by
  refine Bool.eq_false_iff.mpr fun hLetter => ?_
  rw [isNumeric_eq_false_of_isAsciiLetter hLetter] at hNumeric
  cases hNumeric

theorem permitted_letters (hNonempty : run ≠ []) (hAll : ∀ c ∈ run, isAsciiLetter c)
    (hRight : ∀ c ∈ rest.head?, isAsciiLetter c = false) :
    Permitted (run ++ rest) ↔ IsKnown run rest ∧ Permitted rest := by
  have hNumbers : EachRun isNumeric (fun run _ => run ∈ numerals) (run ++ rest) ↔ _ :=
    eachRun_append fun c hMem => isNumeric_eq_false_of_isAsciiLetter (hAll c hMem)
  have hNames : EachRun isAsciiLetter IsKnown (run ++ rest) ↔ _ :=
    eachRun_run hNonempty hAll hRight
  have hRun : ∀ c ∈ run, IsPermitted c := fun c hMem => .inr (.inr (.inl (hAll c hMem)))
  constructor
  · rintro ⟨hCharacters, hEachName, hEachNumber⟩
    obtain ⟨hKnown, hEachName⟩ := hNames.mp hEachName
    exact ⟨hKnown, (List.forall_mem_append.mp hCharacters).2, hEachName,
      hNumbers.mp hEachNumber⟩
  · rintro ⟨hKnown, hCharacters, hEachName, hEachNumber⟩
    exact ⟨List.forall_mem_append.mpr ⟨hRun, hCharacters⟩, hNames.mpr ⟨hKnown, hEachName⟩,
      hNumbers.mpr hEachNumber⟩

theorem isPermitted_of_isNumeric (h : isNumeric c) : IsPermitted c := by
  simp only [isNumeric, Bool.or_eq_true, decide_eq_true_eq] at h
  obtain hDigit | hPoint := h
  · exact .inr (.inl hDigit)
  · exact .inr (.inr (.inr (.inl hPoint)))

theorem permitted_numerals (hNonempty : run ≠ []) (hAll : ∀ c ∈ run, isNumeric c)
    (hRight : ∀ c ∈ rest.head?, isNumeric c = false) :
    Permitted (run ++ rest) ↔ run ∈ numerals ∧ Permitted rest := by
  have hNames : EachRun isAsciiLetter IsKnown (run ++ rest) ↔ EachRun isAsciiLetter IsKnown rest :=
    eachRun_append fun c hMem => isAsciiLetter_eq_false_of_isNumeric (hAll c hMem)
  have hNumbers : EachRun isNumeric (fun run _ => run ∈ numerals) (run ++ rest) ↔ _ :=
    eachRun_run hNonempty hAll hRight
  constructor
  · rintro ⟨hCharacters, hEachName, hEachNumber⟩
    obtain ⟨hNumeral, hEachNumber⟩ := hNumbers.mp hEachNumber
    exact ⟨hNumeral, (List.forall_mem_append.mp hCharacters).2, hNames.mp hEachName, hEachNumber⟩
  · rintro ⟨hNumeral, hCharacters, hEachName, hEachNumber⟩
    exact ⟨List.forall_mem_append.mpr
      ⟨fun c hMem => isPermitted_of_isNumeric (hAll c hMem), hCharacters⟩,
      hNames.mpr hEachName, hNumbers.mpr ⟨hNumeral, hEachNumber⟩⟩

theorem accepts_letters (hNonempty : run ≠ []) (hAll : ∀ c ∈ run, isAsciiLetter c)
    (hRight : ∀ c ∈ rest.head?, isAsciiLetter c = false) :
    Accepts (run ++ rest) ↔ IsKnown run rest ∧ Accepts rest := by
  obtain ⟨c, word, rfl⟩ := List.exists_cons_of_ne_nil hNonempty
  obtain ⟨hLetter, hWord⟩ := List.forall_mem_cons.mp hAll
  rw [List.cons_append, accepts_letter hLetter, takeWhile_run hWord hRight,
    dropWhile_run hWord hRight, isKnown_iff]

theorem exists_run (hFirst : p c) (cs : List Char) : ∃ run rest, c :: cs = run ++ rest ∧
    run ≠ [] ∧ (∀ c ∈ run, p c) ∧ ∀ c ∈ rest.head?, p c = false := by
  refine ⟨(c :: cs).takeWhile p, (c :: cs).dropWhile p, List.takeWhile_append_dropWhile.symm, ?_,
    List.all_eq_true.mp List.all_takeWhile, fun d hHead => ?_⟩
  · rw [List.takeWhile_cons_of_pos hFirst]
    exact List.cons_ne_nil _ _
  · have hStop := List.head?_dropWhile_not p (c :: cs)
    rw [hHead] at hStop
    simpa using hStop

/-- The text that is left ends as the whole text does. -/
theorem last_of_suffix (hSuffix : rest <:+ cs) (hLast : ∀ c ∈ cs.getLast?, isBlank c = false) :
    ∀ c ∈ rest.getLast?, isBlank c = false := by
  obtain ⟨run, rfl⟩ := hSuffix
  intro c hMem
  refine hLast c ?_
  rwa [List.getLast?_append_of_ne_nil _ (List.ne_nil_of_mem (List.mem_of_getLast? hMem))]

theorem isPermitted_of_isOperator (h : isOperator c) : IsPermitted c :=
  .inr (.inr (.inr (.inr (List.contains_iff_mem.mp h))))

theorem isOperator_of_isPermitted (h : IsPermitted c) (hBlank : isBlank c = false)
    (hLetter : isAsciiLetter c = false) (hNumeric : isNumeric c = false) : isOperator c := by
  obtain ⟨hDigit, hPoint⟩ := isNumeric_eq_false_iff.mp hNumeric
  simp only [IsPermitted, hBlank, hDigit, hLetter, Bool.false_eq_true, false_or] at h
  exact List.contains_iff_mem.mpr (h.resolve_left hPoint)

/-- The induction is on the blocks of the text: a blank or an operator, a whole run of letters, or a
whole run of digits and points, of which the scan takes several lexemes. -/
theorem accepts_iff_permitted (hLast : ∀ c ∈ cs.getLast?, isBlank c = false) :
    Accepts cs ↔ Permitted cs := by
  induction hLength : cs.length using Nat.strong_induction_on generalizing cs with
  | _ length ih =>
    cases cs with
    | nil => exact iff_of_true accepts_nil permitted_nil
    | cons c cs =>
      have hRest : ∀ {run rest : List Char}, run ≠ [] → c :: cs = run ++ rest →
          (Accepts rest ↔ Permitted rest) := by
        intro run rest hNonempty hSplit
        have hPositive := List.length_pos_of_ne_nil hNonempty
        rw [hSplit, List.length_append] at hLength
        exact ih _ (by omega) (last_of_suffix ⟨run, hSplit.symm⟩ hLast) rfl
      by_cases hLetter : isAsciiLetter c
      · obtain ⟨run, rest, hSplit, hNonempty, hAll, hRight⟩ := exists_run hLetter cs
        rw [hSplit, accepts_letters hNonempty hAll hRight, permitted_letters hNonempty hAll hRight,
          hRest hNonempty hSplit]
      by_cases hNumeric : isNumeric c
      · obtain ⟨run, rest, hSplit, hNonempty, hAll, hRight⟩ := exists_run hNumeric cs
        rw [hSplit, accepts_numerals hNonempty hAll hRight,
          permitted_numerals hNonempty hAll hRight, hRest hNonempty hSplit]
      have hTail : Accepts cs ↔ Permitted cs := hRest (List.cons_ne_nil c []) rfl
      rw [Bool.not_eq_true] at hLetter hNumeric
      obtain ⟨hDigit, hPoint⟩ := isNumeric_eq_false_iff.mp hNumeric
      cases hBlank : isBlank c with
      | true =>
        have hSome : cs ≠ [] := by
          rintro rfl
          rw [hLast c rfl] at hBlank
          cases hBlank
        rw [accepts_blank hBlank hSome, permitted_cons (.inl hBlank) hLetter hNumeric, hTail]
      | false =>
        cases hOperator : isOperator c with
        | true =>
          rw [accepts_operator hOperator,
            permitted_cons (isPermitted_of_isOperator hOperator) hLetter hNumeric, hTail]
        | false =>
          refine iff_of_false (fun hAccepts => ?_) fun hPermitted => ?_
          · simpa [hBlank, hOperator] using hAccepts.of_other hLetter hDigit hPoint
          · have hFirst := hPermitted.characters c List.mem_cons_self
            rw [isOperator_of_isPermitted hFirst hBlank hLetter hNumeric] at hOperator
            cases hOperator

/-! ## Faults -/

/-- What the scan of a text can object to: a character of it that is no blank, or a name. -/
inductive Blames (cs : List Char) : Fault → Prop
  | character {c : Char} (hMem : c ∈ cs) (hBlank : isBlank c = false) :
      Blames cs (.unexpectedCharacter (String.singleton c))
  | name (called : Bool) (name : String) : Blames cs (.unknownName called name)

theorem Blames.of_suffix {fault : Fault} (h : Blames rest fault) (hSuffix : rest <:+ cs) :
    Blames cs fault := by
  cases h with
  | character hMem hBlank => exact .character (hSuffix.subset hMem) hBlank
  | name called name => exact .name called name

theorem blames_of_checkName {name : String} {fault : Fault}
    (h : checkName name after = .error fault) : Blames cs fault := by
  rw [checkName] at h
  split at h
  · cases h
  · cases h
    exact .name _ _

/-- A text that does not end in a blank is never left with blanks only. -/
theorem blames_of_scans {answer : Except Fault Unit} (h : Scans cs answer)
    (hLast : ∀ c ∈ cs.getLast?, isBlank c = false) :
    ∀ fault, answer = .error fault → Blames cs fault := by
  induction h with
  | done => exact nofun
  | @lastBlank c hBlank =>
    rw [hLast c rfl] at hBlank
    cases hBlank
  | @blank c cs _ _ _ _ ih =>
    have hSuffix := List.suffix_cons c cs
    exact fun fault hFault => (ih (last_of_suffix hSuffix hLast) fault hFault).of_suffix hSuffix
  | @name c cs _ _ _ _ ih =>
    have hSuffix := (List.dropWhile_suffix isAsciiLetter).trans (List.suffix_cons c cs)
    exact fun fault hFault => (ih (last_of_suffix hSuffix hLast) fault hFault).of_suffix hSuffix
  | unknown _ hUnknown =>
    rintro _ ⟨⟩
    exact blames_of_checkName hUnknown
  | @nameless c cs after _ _ _ hAfter _ ih =>
    have hSuffix := (afterNameless?_suffix hAfter).trans (List.suffix_cons c cs)
    exact fun fault hFault => (ih (last_of_suffix hSuffix hLast) fault hFault).of_suffix hSuffix
  | unexpected hBlank _ _ =>
    rintro _ ⟨⟩
    exact .character List.mem_cons_self hBlank

theorem getLast?_trimRight (cs : List Char) : ∀ c ∈ (trimRight cs).getLast?, isBlank c = false := by
  intro c hMem
  have hStop := List.head?_dropWhile_not isBlank cs.reverse
  rw [trimRight, List.getLast?_reverse] at hMem
  rw [hMem] at hStop
  simpa using hStop

theorem mem_of_mem_trimRight (h : c ∈ trimRight cs) : c ∈ cs := by
  rw [trimRight, List.mem_reverse] at h
  exact List.mem_reverse.mp ((List.dropWhile_sublist _).subset h)

theorem shown_of_blames {fault : Fault} {hint : String} (h : Blames cs fault)
    (hHint : fault.hint? = some hint) (hShown : "Unexpected character ".toList <+: hint.toList) :
    ∃ c ∈ cs, isBlank c = false ∧
      hint = "Unexpected character " ++ Quoted.quote (String.singleton c) := by
  cases h with
  | character hMem hBlank =>
    cases hHint
    exact ⟨_, hMem, hBlank, rfl⟩
  | name called name =>
    cases hHint
    obtain ⟨rest, hSame⟩ := hShown
    rw [String.toList_append] at hSame
    cases congrArg List.head? hSame

theorem compile_of_check {text : String} {fault : Fault} (h : check text = .error fault)
    (library : Library) : compile library text = .error (.diagnosed text fault) := by
  rw [compile, h]
  rfl

/-- The check of a function accepts just the texts that are permitted without the blanks at their
end. Any other is rejected with a diagnostic, and if that shows an unexpected character, it is one
of the text and no blank. -/
theorem check_eq_ok_iff_permitted (text : String) :
    (check text = .ok () ↔ Permitted (trimRight text.toList)) ∧
    (¬Permitted (trimRight text.toList) ↔ ∃ fault, check text = .error fault ∧
      (∀ library, compile library text = .error (.diagnosed text fault)) ∧
      ∀ hint, fault.hint? = some hint → "Unexpected character ".toList <+: hint.toList →
        ∃ c ∈ text.toList, isBlank c = false ∧
          hint = "Unexpected character " ++ Quoted.quote (String.singleton c)) := by
  have hScans := scans_check text
  have hLast := getLast?_trimRight text.toList
  rw [← accepts_iff_permitted hLast, accepts_iff_scans]
  cases hCheck : check text with
  | ok _ =>
    rw [hCheck] at hScans
    refine ⟨iff_of_true rfl hScans, iff_of_false (not_not_intro hScans) ?_⟩
    rintro ⟨fault, hError, -⟩
    cases hError
  | error fault =>
    rw [hCheck] at hScans
    have hRejected : ¬Scans (trimRight text.toList) (.ok ()) := fun hAccepted => by
      cases hScans.unique hAccepted
    refine ⟨iff_of_false nofun hRejected,
      iff_of_true hRejected ⟨fault, rfl, compile_of_check hCheck, fun hint hHint hShown => ?_⟩⟩
    obtain ⟨c, hMem, hBlank, hText⟩ :=
      shown_of_blames (blames_of_scans hScans hLast fault rfl) hHint hShown
    exact ⟨c, mem_of_mem_trimRight hMem, hBlank, hText⟩

example : check "1..2" = .ok () := rfl

example : check "1.2." = .error (.unexpectedCharacter ".") := rfl

end PlotLang.Expression.Vocabulary
