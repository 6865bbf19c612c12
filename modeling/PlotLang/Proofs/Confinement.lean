import PlotLang.Expression.Piece
import PlotLang.Proofs.Places

/-! # What the scan confines the pieces of a function to

The scan and the pieces cut a text at different points: a digit ends a name for the scan and goes on
with it in a piece, and the digits after a letter may be taken with a point behind them. Following
both through the text shows where alone a piece can escape the vocabulary: in a known name that goes
on with a digit, in a name directly behind a hexadecimal number, and in a point behind one of these
or behind a power of ten. That every piece found there does escape is not said.
-/

namespace PlotLang.Expression

open Text
open Vocabulary (Accepts At Place isAsciiLetter isOperator)

variable {c : Char} {cs ds rest : List Char} {place : Place}

/-! ## Characters -/

theorem isDecimalDigit_of_isDigit (h : isDigit c) : isDecimalDigit c := by
  simp only [isDigit, Bool.and_eq_true, decide_eq_true_eq] at h
  have hBounds : 48 ≤ c.toNat ∧ c.toNat ≤ 57 := h
  rw [isDecimalDigit, decimalDigitRanges, inRanges, if_neg (by omega)]
  simp [hBounds.2]

theorem isAsciiLetter_of_le (h : ('a' ≤ c ∧ c ≤ 'f') ∨ ('A' ≤ c ∧ c ≤ 'F')) :
    isAsciiLetter c := by
  simp only [isAsciiLetter, Bool.or_eq_true, Bool.and_eq_true, decide_eq_true_eq]
  obtain ⟨hLow, hHigh⟩ | ⟨hLow, hHigh⟩ := h
  · exact .inl ⟨hLow, Char.le_trans hHigh (by decide)⟩
  · exact .inr ⟨hLow, Char.le_trans hHigh (by decide)⟩

theorem isNamePart_of_isHexDigit (h : isHexDigit c) : Piece.isNamePart c := by
  simp only [isHexDigit, Bool.or_eq_true, Bool.and_eq_true, decide_eq_true_eq, or_assoc] at h
  rw [Piece.isNamePart, Bool.or_eq_true]
  obtain hDigit | hLetter := h
  · exact .inr (isDecimalDigit_of_isDigit hDigit)
  · exact .inl (isAsciiLetter_of_le hLetter)

theorem forall_takeWhile {p q : Char → Bool} (h : ∀ c, p c → q c) (cs : List Char) :
    ∀ c ∈ cs.takeWhile p, q c :=
  fun c hMem => h c (List.all_eq_true.mp List.all_takeWhile c hMem)

/-! ## Pieces of a text -/

namespace Power

theorem read_cases (cs : List Char) :
    (∃ p rest, read cs = (some p, rest) ∧ cs = 'E' :: (p.sign.toList ++ (p.digits ++ rest)) ∧
      p.sign ∈ [none, some '-', some '+'] ∧ p.digits ≠ [] ∧ ∀ d ∈ p.digits, isDecimalDigit d) ∨
    read cs = (none, cs) := by
  have hAll : ∀ ds : List Char, ∀ d ∈ ds.takeWhile isDigit, isDecimalDigit d :=
    forall_takeWhile fun _ => isDecimalDigit_of_isDigit
  unfold read
  split
  · rename_i tail
    split
    rename_i sign ds hSign
    have hTail : tail = sign.toList ++ ds ∧ sign ∈ [none, some '-', some '+'] := by
      split at hSign <;> cases hSign <;> simp
    split
    · exact .inr rfl
    · rename_i hDigits
      refine .inl ⟨_, _, rfl, ?_, hTail.2, by simpa using hDigits, hAll ds⟩
      rw [List.takeWhile_append_dropWhile, ← hTail.1]
  · exact .inr rfl

end Power

namespace Piece

theorem readFraction_cases (cs : List Char) :
    (∃ ds rest, cs = '.' :: (ds ++ rest) ∧ readFraction cs = (some ds, rest) ∧
      ∀ d ∈ ds, isDecimalDigit d) ∨
    cs.head? ≠ some '.' ∧ readFraction cs = (none, cs) := by
  unfold readFraction
  split
  · rename_i tail
    exact .inl ⟨_, _, by rw [List.takeWhile_append_dropWhile], rfl,
      forall_takeWhile (fun _ => isDecimalDigit_of_isDigit) tail⟩
  · rename_i hOther
    refine .inr ⟨fun hHead => ?_, rfl⟩
    obtain ⟨tail, rfl⟩ := List.head?_eq_some_iff.mp hHead
    exact hOther tail rfl

theorem readDecimal_text (cs : List Char) :
    (readDecimal cs).1.text ++ (readDecimal cs).2 = cs := by
  have hWhole : cs.takeWhile isDigit ++ cs.dropWhile isDigit = cs :=
    List.takeWhile_append_dropWhile
  rw [readDecimal]
  obtain ⟨ds, rest, hSplit, hFraction, -⟩ | ⟨-, hFraction⟩ :=
    readFraction_cases (cs.dropWhile isDigit)
  · rw [hFraction]
    obtain ⟨p, rest', hPower, hRest, -⟩ | hPower := Power.read_cases rest
    · rw [hRest] at hSplit
      rw [hSplit] at hWhole
      simpa [hPower, text, fractionText, Power.text] using hWhole
    · rw [hSplit] at hWhole
      simpa [hPower, text, fractionText] using hWhole
  · rw [hFraction]
    obtain ⟨p, rest', hPower, hRest, -⟩ | hPower := Power.read_cases (cs.dropWhile isDigit)
    · rw [hRest] at hWhole
      simpa [hPower, text, fractionText, Power.text] using hWhole
    · simp [hPower, text, fractionText]

theorem readNumber_cases (cs : List Char) :
    (∃ ds rest, cs = '0' :: 'x' :: (ds ++ rest) ∧ readNumber cs = (.hexadecimal ds, rest) ∧
      ds ≠ [] ∧ ∀ d ∈ ds, isNamePart d) ∨
    readNumber cs = readDecimal cs := by
  unfold readNumber
  split
  · rename_i tail
    split
    · exact .inr rfl
    · rename_i hDigits
      exact .inl ⟨_, _, by rw [List.takeWhile_append_dropWhile], rfl, by simpa using hDigits,
        forall_takeWhile (fun _ => isNamePart_of_isHexDigit) tail⟩
  · exact .inr rfl

theorem next_text (c : Char) (cs : List Char) :
    (next c cs).1.text ++ (next c cs).2 = c :: cs := by
  unfold next
  split
  · obtain ⟨ds, rest, hSplit, hRead, -⟩ | hRead := readNumber_cases (c :: cs)
    · rw [hRead, hSplit]
      rfl
    · rw [hRead]
      exact readDecimal_text _
  · split
    · exact List.takeWhile_append_dropWhile
    · split
      · exact List.takeWhile_append_dropWhile
      · rfl

theorem readDecimal_text_ne_nil (h : startsNumber c cs) :
    (readDecimal (c :: cs)).1.text ≠ [] := by
  rw [readDecimal]
  cases hDigit : isDigit c with
  | true => simp [text, List.takeWhile_cons_of_pos hDigit]
  | false =>
    simp only [startsNumber, hDigit, Bool.false_or, Bool.and_eq_true, decide_eq_true_eq] at h
    obtain ⟨rfl, -⟩ := h
    simp [text, readFraction, fractionText, hDigit]

theorem takeWhile_ne_nil {p : Char → Bool} (h : p c) (cs : List Char) :
    (c :: cs).takeWhile p ≠ [] := by
  rw [List.takeWhile_cons_of_pos h]
  exact List.cons_ne_nil _ _

theorem next_text_ne_nil (c : Char) (cs : List Char) : (next c cs).1.text ≠ [] := by
  unfold next
  split
  · rename_i hNumber
    obtain ⟨ds, rest, -, hRead, -⟩ | hRead := readNumber_cases (c :: cs)
    · rw [hRead]
      exact List.cons_ne_nil _ _
    · rw [hRead]
      exact readDecimal_text_ne_nil hNumber
  split
  · rename_i hLetter
    exact takeWhile_ne_nil (by simp [isNamePart, hLetter]) cs
  split
  · rename_i hDigit
    exact takeWhile_ne_nil (by simp [isNamePart, hDigit]) cs
  · exact List.cons_ne_nil _ _

theorem next_length (c : Char) (cs : List Char) : (next c cs).2.length ≤ cs.length := by
  have hLength := congrArg List.length (next_text c cs)
  have hPositive := List.length_pos_iff.mpr (next_text_ne_nil c cs)
  rw [List.length_append, List.length_cons] at hLength
  omega

theorem split_cons (fuel : Nat) (c : Char) (cs : List Char) :
    split (fuel + 1) (c :: cs) = (next c cs).1 :: split fuel (next c cs).2 := rfl

theorem split_text {fuel : Nat} (h : cs.length ≤ fuel) : (split fuel cs).flatMap text = cs := by
  induction fuel generalizing cs with
  | zero =>
    cases List.length_eq_zero_iff.mp (Nat.le_zero.mp h)
    rfl
  | succ fuel ih =>
    cases cs with
    | nil => rfl
    | cons c cs =>
      have hRest : (next c cs).2.length ≤ fuel :=
        Nat.le_trans (next_length c cs) (Nat.le_of_succ_le_succ h)
      rw [split_cons, List.flatMap_cons, ih hRest, next_text]

end Piece

/-! ## Where the scan stands behind a piece -/

namespace Vocabulary

/-- In a number the scan stands before or after the point. -/
def AtNumber (cs : List Char) : Prop := At .whole cs ∨ At .fraction cs

theorem AtNumber.exists_at (h : AtNumber cs) : ∃ place, At place cs :=
  h.elim (fun hWhole => ⟨_, hWhole⟩) (fun hFraction => ⟨_, hFraction⟩)

theorem at_digits (h : At place (ds ++ rest)) (hNonempty : ds ≠ [])
    (hDigits : ∀ d ∈ ds, isDecimalDigit d) : AtNumber rest := by
  induction ds generalizing place with
  | nil => exact absurd rfl hNonempty
  | cons d ds ih =>
    obtain ⟨hFirst, hRest⟩ := List.forall_mem_cons.mp hDigits
    have hStep : AtNumber (ds ++ rest) := at_digit h hFirst
    cases ds with
    | nil => exact hStep
    | cons e ds =>
      obtain ⟨place, hPlace⟩ := hStep.exists_at
      exact ih hPlace (List.cons_ne_nil _ _) hRest

theorem at_fraction_digits (h : At .fraction (ds ++ rest)) (hDigits : ∀ d ∈ ds, isDecimalDigit d) :
    At .fraction rest := by
  rwa [At, List.dropWhile_append_of_pos hDigits] at h

/-- Behind letters and digits the scan stands in a number if they end in a digit, else in a name. -/
theorem at_run {text : List Char} (h : At place (text ++ rest)) (hNonempty : text ≠ [])
    (hParts : ∀ c ∈ text, Piece.isNamePart c) :
    text.getLast?.any isDecimalDigit ∧ AtNumber rest ∨ ∃ letters, At (.name letters) rest := by
  -- where the scan stood before a character does not matter: each one decides where it stands next
  induction text generalizing place with
  | nil => exact absurd rfl hNonempty
  | cons c text ih =>
    obtain ⟨hFirst, hRest⟩ := List.forall_mem_cons.mp hParts
    have hStep : isDecimalDigit c ∧ AtNumber (text ++ rest) ∨
        ∃ letters, At (.name letters) (text ++ rest) := by
      rw [Piece.isNamePart, Bool.or_eq_true] at hFirst
      obtain hLetter | hDigit := hFirst
      · exact .inr (at_letter h hLetter)
      · exact .inl ⟨hDigit, at_digit h hDigit⟩
    cases text with
    | nil => simpa using hStep
    | cons d text =>
      rw [List.getLast?_cons_cons]
      have hPlace : ∃ place, At place (d :: text ++ rest) := by
        obtain ⟨-, hNumber⟩ | ⟨letters, hName⟩ := hStep
        · exact hNumber.exists_at
        · exact ⟨_, hName⟩
      obtain ⟨place, hPlace⟩ := hPlace
      exact ih hPlace (List.cons_ne_nil _ _) hRest

theorem accepts_of_name {letters : List Char} (h : At (.name letters) cs)
    (hHead : ∀ c ∈ cs.head?, Piece.isNamePart c = false) : Accepts cs := by
  cases cs with
  | nil => exact h.2
  | cons c cs =>
    have hNone := hHead c rfl
    rw [Piece.isNamePart, Bool.or_eq_false_iff] at hNone
    exact accepts_of_at h hNone.2 (fun _ _ => hNone.1) nofun

end Vocabulary

namespace Piece

open Vocabulary (AtNumber accepts_of_at_other accepts_of_name at_digits at_fraction_digits at_run)

/-- A point right behind the piece is read with the digits that the piece ends in. -/
def takesPoint : Piece → Bool
  | .hexadecimal digits => digits.getLast?.any isDecimalDigit
  | .decimal _ _ power => power.isSome
  | .name text | .stray text => text.getLast?.any isDecimalDigit
  | .symbol _ => false

/-- What a piece can be behind another one and before a text. The scan lets through no other, but not
all of these: letters behind a hexadecimal number have to complete a known name. -/
def Confined (last : Option Piece) (p : Piece) (after : List Char) : Prop :=
  match p with
  | .name text =>
    String.ofList text ∈ constantNames ∨
    String.ofList text ∈ functionNames ∧ Vocabulary.isCalled after ∨
    (∃ constant digit others, text = constant ++ digit :: others ∧
      String.ofList constant ∈ constantNames ∧ isDecimalDigit digit) ∨
    ∃ digits, last = some (.hexadecimal digits)
  | .symbol c =>
    if c = '.' then
      (∃ p ∈ last, p.takesPoint) ∨ ∃ d ∈ after.head?, isDecimalDigit d ∧ isDigit d = false
    else isBlank c ∨ isOperator c
  | _ => True

/-- Where the scan stands behind a piece: in a name only if the name began in a hexadecimal number,
and before the point of a number only if the piece would take it. -/
structure Stands (last : Option Piece) (place : Place) (cs : List Char) : Prop where
  accepted : At place cs
  name : ∀ letters, place = .name letters → ∃ digits, last = some (.hexadecimal digits)
  point : place = .whole → cs.head? = some '.' → ∃ p ∈ last, p.takesPoint

variable {last : Option Piece} {p : Piece}

theorem Stands.of_between (h : Accepts cs) : Stands last .between cs :=
  ⟨h, nofun, nofun⟩

theorem Stands.of_fraction (h : At .fraction cs) : Stands last .fraction cs :=
  ⟨h, nofun, nofun⟩

theorem stands_of_atNumber (h : AtNumber cs) (hPoint : cs.head? = some '.' → p.takesPoint) :
    ∃ place, Stands (some p) place cs := by
  obtain hWhole | hFraction := h
  · exact ⟨_, hWhole, nofun, fun _ hHead => ⟨p, rfl, hPoint hHead⟩⟩
  · exact ⟨_, .of_fraction hFraction⟩

/-! ## One piece -/

theorem stands_hexadecimal (h : At place ('0' :: 'x' :: (ds ++ rest))) (hNonempty : ds ≠ [])
    (hDigits : ∀ d ∈ ds, isNamePart d) :
    ∃ place, Stands (some (.hexadecimal ds)) place rest := by
  have hZero : AtNumber ('x' :: (ds ++ rest)) := Vocabulary.at_digit h (by decide)
  obtain ⟨place, hLetter⟩ := hZero.exists_at
  obtain ⟨letters, hName⟩ := Vocabulary.at_letter hLetter (by decide)
  obtain ⟨hLast, hNumber⟩ | ⟨letters', hLetters⟩ := at_run hName hNonempty hDigits
  · exact stands_of_atNumber hNumber fun _ => hLast
  · exact ⟨_, hLetters, fun _ _ => ⟨ds, rfl⟩, nofun⟩

theorem stands_power {whole : List Char} {fraction : Option (List Char)}
    (h : At .fraction cs ∨ At .whole cs ∧ cs.head? ≠ some '.') :
    ∃ place, Stands (some (.decimal whole fraction (Power.read cs).1)) place (Power.read cs).2 := by
  obtain ⟨p, rest, hRead, rfl, hSign, hNonempty, hDigits⟩ | hRead := Power.read_cases cs
  · have hName : ∃ letters, At (.name letters) (p.sign.toList ++ (p.digits ++ rest)) := by
      obtain hFraction | ⟨hWhole, -⟩ := h
      · exact Vocabulary.at_letter hFraction (by decide)
      · exact Vocabulary.at_letter hWhole (by decide)
    obtain ⟨letters, hName⟩ := hName
    have hPlace : ∃ place, At place (p.digits ++ rest) := by
      have hOperator : ∀ c, c = '-' ∨ c = '+' → At (.name letters) (c :: (p.digits ++ rest)) →
          ∃ place, At place (p.digits ++ rest) := by
        rintro c (rfl | rfl) hAt
        · exact ⟨.between, (accepts_of_at_other hAt (by decide) (by decide) (by decide)).2⟩
        · exact ⟨.between, (accepts_of_at_other hAt (by decide) (by decide) (by decide)).2⟩
      cases hSome : p.sign with
      | none =>
        rw [hSome] at hName
        exact ⟨_, hName⟩
      | some c =>
        rw [hSome] at hName hSign
        exact hOperator c (by simpa using hSign) hName
    obtain ⟨place, hPlace⟩ := hPlace
    rw [hRead]
    exact stands_of_atNumber (at_digits hPlace hNonempty hDigits) fun _ => rfl
  · rw [hRead]
    obtain hFraction | ⟨hWhole, hHead⟩ := h
    · exact ⟨_, .of_fraction hFraction⟩
    · exact ⟨_, hWhole, nofun, fun _ hPoint => absurd hPoint hHead⟩

theorem stands_decimal (h : At place (c :: cs)) (hNumber : startsNumber c cs) :
    ∃ place, Stands (some (readDecimal (c :: cs)).1) place (readDecimal (c :: cs)).2 := by
  have hWhole : ∃ place, At place ((c :: cs).dropWhile isDigit) ∧
      (((c :: cs).dropWhile isDigit).head? ≠ some '.' →
        AtNumber ((c :: cs).dropWhile isDigit)) := by
    cases hDigit : isDigit c with
    | true =>
      rw [← List.takeWhile_append_dropWhile (p := isDigit) (l := c :: cs)] at h
      have hAt := at_digits h (takeWhile_ne_nil hDigit cs)
        (forall_takeWhile (fun _ => isDecimalDigit_of_isDigit) _)
      obtain hWhole | hFraction := hAt
      · exact ⟨_, hWhole, fun _ => .inl hWhole⟩
      · exact ⟨_, hFraction, fun _ => .inr hFraction⟩
    | false =>
      simp only [startsNumber, hDigit, Bool.false_or, Bool.and_eq_true, decide_eq_true_eq]
        at hNumber
      rw [List.dropWhile_cons_of_neg (by simp [hDigit])]
      exact ⟨place, h, fun hHead => absurd (congrArg some hNumber.1) hHead⟩
  obtain ⟨place', hAt, hOther⟩ := hWhole
  rw [readDecimal]
  obtain ⟨ds, rest, hSplit, hRead, hDigits⟩ | ⟨hHead, hRead⟩ :=
    readFraction_cases ((c :: cs).dropWhile isDigit)
  · rw [hSplit] at hAt
    rw [hRead]
    exact stands_power (.inl (at_fraction_digits (Vocabulary.at_point hAt) hDigits))
  · rw [hRead]
    refine stands_power ?_
    obtain hWhole | hFraction := hOther hHead
    · exact .inr ⟨hWhole, hHead⟩
    · exact .inl hFraction

/-- A run of letters and digits is taken to its end: what follows it is not in a name any more. -/
theorem stands_run (h : At place (c :: cs)) (hPart : isNamePart c)
    (hPoint : p.takesPoint = ((c :: cs).takeWhile isNamePart).getLast?.any isDecimalDigit) :
    ∃ place, Stands (some p) place ((c :: cs).dropWhile isNamePart) := by
  rw [← List.takeWhile_append_dropWhile (p := isNamePart) (l := c :: cs)] at h
  obtain ⟨hLast, hNumber⟩ | ⟨letters, hName⟩ := at_run h (takeWhile_ne_nil hPart cs)
    (forall_takeWhile (fun _ hC => hC) _)
  · exact stands_of_atNumber hNumber fun _ => hPoint.trans hLast
  · refine ⟨_, .of_between (accepts_of_name hName fun d hHead => ?_)⟩
    have hOther := List.head?_dropWhile_not isNamePart (c :: cs)
    rw [hHead] at hOther
    exact hOther

/-- A run of letters and digits is that of its first letters and then that of what follows. -/
theorem run_eq (cs : List Char) :
    cs.takeWhile isNamePart =
        cs.takeWhile isAsciiLetter ++ (cs.dropWhile isAsciiLetter).takeWhile isNamePart ∧
      cs.dropWhile isNamePart = (cs.dropWhile isAsciiLetter).dropWhile isNamePart := by
  have hLetters : ∀ c ∈ cs.takeWhile isAsciiLetter, isNamePart c :=
    forall_takeWhile (fun c hLetter => by simp [isNamePart, hLetter]) cs
  have hSplit : cs.takeWhile isAsciiLetter ++ cs.dropWhile isAsciiLetter = cs :=
    List.takeWhile_append_dropWhile
  have hTake := congrArg (List.takeWhile isNamePart) hSplit
  have hDrop := congrArg (List.dropWhile isNamePart) hSplit
  rw [List.takeWhile_append_of_pos hLetters] at hTake
  rw [List.dropWhile_append_of_pos hLetters] at hDrop
  exact ⟨hTake.symm, hDrop.symm⟩

theorem not_isCalled_of_isDecimalDigit (h : isDecimalDigit c) :
    Vocabulary.isCalled (c :: cs) = false := by
  have hTrim : trimLeft (c :: cs) = c :: cs :=
    Vocabulary.trimLeft_eq_self (isBlank_eq_false_of_isDecimalDigit h)
  have hParenthesis : c ≠ '(' := by
    rintro rfl
    exact absurd h (by decide)
  simpa [Vocabulary.isCalled, hTrim] using hParenthesis

theorem confined_name (h : Stands last place (c :: cs)) (hLetter : isAsciiLetter c) :
    Confined last (.name ((c :: cs).takeWhile isNamePart)) ((c :: cs).dropWhile isNamePart) := by
  by_cases hName : ∃ letters, place = .name letters
  · -- the scan has this name begin in the letters of a hexadecimal number
    obtain ⟨letters, hPlace⟩ := hName
    exact .inr (.inr (.inr (h.name letters hPlace)))
  · have hAccepts : Accepts (c :: cs) := by
      refine Vocabulary.accepts_of_at h.accepted
        (Vocabulary.isDecimalDigit_eq_false_of_isAsciiLetter hLetter)
        (fun letters hPlace => absurd ⟨letters, hPlace⟩ hName) ?_
      rintro - rfl
      exact absurd hLetter (by decide)
    obtain ⟨hCheck, -⟩ := hAccepts.of_letter hLetter
    rw [List.singleton_append, ← List.takeWhile_cons_of_pos hLetter] at hCheck
    have hKnown := Vocabulary.checkName_eq_ok_iff.mp hCheck
    rw [(run_eq (c :: cs)).1, (run_eq (c :: cs)).2, List.dropWhile_cons_of_pos hLetter]
    cases hAfter : cs.dropWhile isAsciiLetter with
    | nil =>
      rw [hAfter] at hKnown
      rw [List.takeWhile_nil, List.append_nil]
      exact hKnown.imp_right .inl
    | cons a as =>
      rw [hAfter] at hKnown
      cases hPart : isNamePart a with
      | false =>
        have hStop : ¬ isNamePart a := by simp [hPart]
        rw [List.takeWhile_cons_of_neg hStop, List.append_nil, List.dropWhile_cons_of_neg hStop]
        exact hKnown.imp_right .inl
      | true =>
        have hEnd := List.head?_dropWhile_not isAsciiLetter cs
        rw [hAfter] at hEnd
        have hEnd : isAsciiLetter a = false := hEnd
        have hDigit : isDecimalDigit a := by simpa [isNamePart, hEnd] using hPart
        -- the name of a function cannot end here, as no parenthesis follows it
        rw [not_isCalled_of_isDecimalDigit hDigit] at hKnown
        obtain hConstant | ⟨-, hCalled⟩ := hKnown
        · rw [List.takeWhile_cons_of_pos hPart]
          exact .inr (.inr (.inl ⟨_, a, _, rfl, hConstant, hDigit⟩))
        · cases hCalled

theorem confined_symbol (h : Stands last place (c :: cs)) (hNumber : startsNumber c cs = false)
    (hLetter : isAsciiLetter c = false) (hDigit : isDecimalDigit c = false) :
    Confined last (.symbol c) cs ∧ ∃ place, Stands (some (.symbol c)) place cs := by
  rw [Confined]
  split
  · rename_i hPoint
    subst hPoint
    refine ⟨?_, _, .of_fraction (Vocabulary.at_point h.accepted)⟩
    by_cases hWhole : place = .whole
    · exact .inl (h.point hWhole rfl)
    · have hAccepts := Vocabulary.accepts_of_at h.accepted hDigit (fun _ _ => hLetter)
        (fun hPlace => absurd hPlace hWhole)
      obtain ⟨⟨d, hHead, hFollows⟩, -⟩ := hAccepts.of_point
      refine .inr ⟨d, hHead, hFollows, ?_⟩
      rw [startsNumber, hHead] at hNumber
      exact (Bool.or_eq_false_iff.mp hNumber).2
  · rename_i hPoint
    obtain ⟨hKnown, hRest⟩ := accepts_of_at_other h.accepted hLetter hDigit hPoint
    exact ⟨hKnown, _, .of_between hRest⟩

theorem next_confined (h : Stands last place (c :: cs)) :
    Confined last (next c cs).1 (next c cs).2 ∧
      ∃ place, Stands (some (next c cs).1) place (next c cs).2 := by
  unfold next
  split
  · rename_i hNumber
    obtain ⟨ds, rest, hSplit, hRead, hNonempty, hDigits⟩ | hRead := readNumber_cases (c :: cs)
    · rw [hRead]
      exact ⟨trivial, stands_hexadecimal (hSplit ▸ h.accepted) hNonempty hDigits⟩
    · rw [hRead]
      refine ⟨?_, stands_decimal h.accepted hNumber⟩
      rw [readDecimal]
      trivial
  split
  · rename_i hLetter
    exact ⟨confined_name h hLetter,
      stands_run h.accepted (by simp [isNamePart, hLetter]) rfl⟩
  split
  · rename_i hDigit
    exact ⟨trivial, stands_run h.accepted (by simp [isNamePart, hDigit]) rfl⟩
  · rename_i hNumber hLetter hDigit
    exact confined_symbol h (by simpa using hNumber) (by simpa using hLetter)
      (by simpa using hDigit)

/-! ## All pieces -/

theorem split_confined {fuel : Nat} {before after : List Piece} (h : Stands last place cs)
    (hFuel : cs.length ≤ fuel) (hSplit : split fuel cs = before ++ p :: after) :
    Confined (before.getLast?.or last) p (after.flatMap text) := by
  -- `Stands` is what one piece hands to the next
  induction fuel generalizing cs last place before with
  | zero => simp [split] at hSplit
  | succ fuel ih =>
    cases cs with
    | nil => simp [split] at hSplit
    | cons c cs =>
      have hRest : (next c cs).2.length ≤ fuel :=
        Nat.le_trans (next_length c cs) (Nat.le_of_succ_le_succ hFuel)
      obtain ⟨hConfined, place', hStands⟩ := next_confined h
      rw [split_cons] at hSplit
      cases before with
      | nil =>
        obtain ⟨hFirst, hAfter⟩ := List.cons.inj hSplit
        rw [← hFirst, ← hAfter, split_text hRest]
        exact hConfined
      | cons first before =>
        obtain ⟨hFirst, hTail⟩ := List.cons.inj hSplit
        have hLast := ih hStands hRest hTail
        rw [hFirst] at hLast
        have hSame : (first :: before).getLast?.or last = before.getLast?.or (some first) := by
          rw [List.getLast?_cons]
          cases before.getLast? <;> rfl
        rwa [hSame]

/-- A piece that the scan cuts where the text is cut. -/
def isPlain : Piece → Bool
  | .decimal _ _ none | .symbol _ => true
  | .name text => text.all isAsciiLetter
  | _ => false

theorem confined_of_check {text : String} {before after : List Piece}
    (hCheck : Vocabulary.check text = .ok ()) (hSplit : ofText text = before ++ p :: after) :
    Confined before.getLast? p (after.flatMap Piece.text) := by
  have hStands : Stands none .between (trim text.toList) :=
    .of_between (Vocabulary.accepts_of_check hCheck)
  have hConfined := split_confined hStands (Nat.le_refl _) hSplit
  rwa [Option.or_none] at hConfined

/-- What follows a piece is split like a text of its own. -/
theorem split_suffix {fuel : Nat} {before after : List Piece} (hFuel : cs.length ≤ fuel)
    (h : split fuel cs = before ++ p :: after) :
    ∃ fuel rest, rest.length ≤ fuel ∧ after = split fuel rest := by
  induction fuel generalizing cs before with
  | zero => simp [split] at h
  | succ fuel ih =>
    cases cs with
    | nil => simp [split] at h
    | cons c cs =>
      have hRest : (next c cs).2.length ≤ fuel :=
        Nat.le_trans (next_length c cs) (Nat.le_of_succ_le_succ hFuel)
      rw [split_cons] at h
      cases before with
      | nil => exact ⟨_, _, hRest, (List.cons.inj h).2.symm⟩
      | cons first before => exact ih hRest (List.cons.inj h).2

theorem stray_of_head {fuel : Nat} (hFuel : cs.length ≤ fuel) (hHead : cs.head? = some c)
    (hDecimal : isDecimalDigit c) (hDigit : isDigit c = false) :
    ∃ text, .stray text ∈ split fuel cs := by
  obtain ⟨ds, rfl⟩ := List.head?_eq_some_iff.mp hHead
  have hPoint := Vocabulary.ne_point_of_isDecimalDigit hDecimal
  have hLetter := Vocabulary.isAsciiLetter_eq_false_of_isDecimalDigit hDecimal
  cases fuel with
  | zero => cases hFuel
  | succ fuel =>
    have hNext : (next c ds).1 = .stray ((c :: ds).takeWhile isNamePart) := by
      simp [next, startsNumber, hDigit, hPoint, hLetter, hDecimal]
    rw [split_cons, hNext]
    exact ⟨_, List.mem_cons_self⟩

theorem takesPoint_eq_false_of_isPlain (h : p.isPlain) : p.takesPoint = false := by
  cases p with
  | hexadecimal | stray => cases h
  | decimal whole fraction power =>
    cases power with
    | none => rfl
    | some power => cases h
  | symbol => rfl
  | name text =>
    rw [takesPoint]
    cases hLast : text.getLast? with
    | none => rfl
    | some c =>
      have hLetter := List.all_eq_true.mp h c (List.mem_of_getLast? hLast)
      exact Vocabulary.isDecimalDigit_eq_false_of_isAsciiLetter hLetter

/-- The pieces of a checked text can leave the vocabulary only where they are run together with a
digit or a hexadecimal number; without such pieces every name is known and no point stands alone. -/
theorem checked_pieces_confined {text : String} (hCheck : Vocabulary.check text = .ok ()) :
    (∀ before p after, ofText text = before ++ p :: after →
      Confined before.getLast? p (after.flatMap Piece.text)) ∧
    ((∀ p ∈ ofText text, p.isPlain) →
      (∀ name, .name name ∈ ofText text → String.ofList name ∈ constantNames ++ functionNames) ∧
      .symbol '.' ∉ ofText text) := by
  refine ⟨fun before p after hSplit => confined_of_check hCheck hSplit, fun hPlain => ⟨?_, ?_⟩⟩
  · intro name hMem
    obtain ⟨before, after, hSplit⟩ := List.append_of_mem hMem
    obtain hConstant | ⟨hFunction, -⟩ | ⟨constant, digit, others, rfl, -, hDigit⟩ |
      ⟨digits, hLast⟩ := confined_of_check hCheck hSplit
    · exact List.mem_append_left _ hConstant
    · exact List.mem_append_right _ hFunction
    · have hLetters : (constant ++ digit :: others).all isAsciiLetter := hPlain _ hMem
      have hLetter := List.all_eq_true.mp hLetters digit (by simp)
      rw [Vocabulary.isAsciiLetter_eq_false_of_isDecimalDigit hDigit] at hLetter
      cases hLetter
    · have hHexadecimal : .hexadecimal digits ∈ ofText text := by
        rw [hSplit]
        exact List.mem_append_left _ (List.mem_of_getLast? hLast)
      cases hPlain _ hHexadecimal
  · intro hMem
    obtain ⟨before, after, hSplit⟩ := List.append_of_mem hMem
    have hConfined := confined_of_check hCheck hSplit
    rw [Confined, if_pos rfl] at hConfined
    obtain ⟨q, hLast, hTakes⟩ | ⟨d, hHead, hDecimal, hDigit⟩ := hConfined
    · have hBefore : q ∈ ofText text := by
        rw [hSplit]
        exact List.mem_append_left _ (List.mem_of_getLast? hLast)
      rw [takesPoint_eq_false_of_isPlain (hPlain q hBefore)] at hTakes
      cases hTakes
    · -- a digit that begins no number is a piece of its own, and not a plain one
      obtain ⟨fuel, rest, hFuel, rfl⟩ := split_suffix (Nat.le_refl _) hSplit
      rw [split_text hFuel] at hHead
      obtain ⟨stray, hStray⟩ := stray_of_head hFuel hHead hDecimal hDigit
      have hAfter : .stray stray ∈ ofText text := by
        rw [hSplit]
        exact List.mem_append_right _ (List.mem_cons_of_mem _ hStray)
      cases hPlain _ hAfter

theorem checked_pieces_confined_attribute :
    Vocabulary.check "0x1.floor() + x2" = .ok () ∧
      Confined (some (.hexadecimal ['1'])) (.symbol '.') "floor() + x2".toList := by
  have hCheck : Vocabulary.check "0x1.floor() + x2" = .ok () := rfl
  have hSplit : ofText "0x1.floor() + x2" = [.hexadecimal ['1']] ++ .symbol '.' ::
      [.name "floor".toList, .symbol '(', .symbol ')', .symbol ' ', .symbol '+', .symbol ' ',
        .name "x2".toList] := by
    decide
  exact ⟨hCheck, (checked_pieces_confined hCheck).1 _ _ _ hSplit⟩

/-- A name that is not known and a point, both of which the check lets through. -/
theorem checked_pieces_outside_vocabulary :
    Vocabulary.check "x2.x" = .ok () ∧
      ofText "x2.x" = [.name "x2".toList, .symbol '.', .name "x".toList] ∧
      "x2" ∉ constantNames ++ functionNames :=
  ⟨rfl, by decide, by decide⟩

end Piece

end PlotLang.Expression
