import Mathlib.Computability.Language
import PlotLang.Proofs.Places
import PlotLang.Text.Run

/-! # Runs of letters, and of digits and points

A property of every maximal run of a text is followed from the front: past a character of another
class it is the same property, past a whole run it is one property less. A run of digits and points
is numbers one after another, all of which but the first begin with a point.
-/

namespace PlotLang.Expression.Vocabulary

open Text
open scoped Computability

variable {p : Char → Bool} {P : List Char → List Char → Prop} {c : Char}
  {cs run rest before after word : List Char}

/-! ## Maximal runs -/

/-- A run of characters of a class, between a text that does not end in one and a text that does not
begin with one. -/
structure IsRun (p : Char → Bool) (before run after : List Char) : Prop where
  nonempty : run ≠ []
  all : ∀ c ∈ run, p c
  left : ∀ c ∈ before.getLast?, p c = false
  right : ∀ c ∈ after.head?, p c = false

/-- A property of every maximal run, and what follows it. -/
def EachRun (p : Char → Bool) (P : List Char → List Char → Prop) (cs : List Char) : Prop :=
  ∀ before run after, cs = before ++ run ++ after → IsRun p before run after → P run after

theorem eachRun_nil : EachRun p P [] := by
  intro before run after hSplit hRun
  simp [hRun.nonempty] at hSplit

theorem getLast?_cons_of_ne_nil (h : before ≠ []) :
    (c :: before).getLast? = before.getLast? := by
  cases before with
  | nil => exact absurd rfl h
  | cons d ds => rfl

/-- A character of another class stands before every run. -/
theorem eachRun_cons (hp : p c = false) : EachRun p P (c :: cs) ↔ EachRun p P cs := by
  constructor
  · rintro hEach before run after rfl hRun
    refine hEach (c :: before) run after rfl { hRun with left := ?_ }
    intro d hLast
    by_cases hNil : before = []
    · subst hNil
      cases hLast
      exact hp
    · rw [getLast?_cons_of_ne_nil hNil] at hLast
      exact hRun.left d hLast
  · intro hEach before run after hSplit hRun
    cases before with
    | nil =>
      obtain ⟨d, ds, rfl⟩ := List.exists_cons_of_ne_nil hRun.nonempty
      cases hSplit
      rw [hRun.all c List.mem_cons_self] at hp
      cases hp
    | cons d ds =>
      cases hSplit
      refine hEach ds run after rfl { hRun with left := fun e hLast => hRun.left e ?_ }
      obtain ⟨f, fs, rfl⟩ := List.exists_cons_of_ne_nil (List.ne_nil_of_mem
        (List.mem_of_getLast? hLast))
      exact hLast

theorem eachRun_append (hp : ∀ c ∈ word, p c = false) :
    EachRun p P (word ++ cs) ↔ EachRun p P cs := by
  induction word with
  | nil => exact Iff.rfl
  | cons c word ih =>
    obtain ⟨hFirst, hRest⟩ := List.forall_mem_cons.mp hp
    exact (eachRun_cons hFirst).trans (ih hRest)

theorem IsRun.ne_nil (h : IsRun p before run after)
    (hHead : ∀ c ∈ (before ++ run ++ after).head?, p c = false) : before ≠ [] := by
  rintro rfl
  obtain ⟨d, ds, rfl⟩ := List.exists_cons_of_ne_nil h.nonempty
  have hFirst := hHead d rfl
  rw [h.all d List.mem_cons_self] at hFirst
  cases hFirst

/-- The run at the head of a text, and those behind it. -/
theorem eachRun_run (hNonempty : run ≠ []) (hAll : ∀ c ∈ run, p c)
    (hRight : ∀ c ∈ rest.head?, p c = false) :
    EachRun p P (run ++ rest) ↔ P run rest ∧ EachRun p P rest := by
  constructor
  · intro hEach
    refine ⟨hEach [] run rest rfl ⟨hNonempty, hAll, nofun, hRight⟩, ?_⟩
    rintro before other after rfl hRun
    have hBefore := hRun.ne_nil hRight
    refine hEach (run ++ before) other after (by simp) { hRun with left := ?_ }
    rw [List.getLast?_append_of_ne_nil _ hBefore]
    exact hRun.left
  · rintro ⟨hFirst, hEach⟩ before other after hSplit hRun
    by_cases hNil : before = []
    · subst hNil
      have hSame := congrArg (List.takeWhile p) hSplit
      rw [takeWhile_run hAll hRight, List.nil_append, takeWhile_run hRun.all hRun.right] at hSame
      subst hSame
      rwa [← List.append_cancel_left hSplit]
    · rw [List.append_assoc] at hSplit
      obtain ⟨between, rfl, rfl⟩ | ⟨head, rfl, -⟩ := List.append_eq_append_iff.mp hSplit
      · refine hEach between other after (by simp) { hRun with left := fun d hLast => ?_ }
        refine hRun.left d ?_
        rwa [List.getLast?_append_of_ne_nil _ (List.ne_nil_of_mem (List.mem_of_getLast? hLast))]
      · have hLast := hRun.left _ (List.getLast?_eq_some_getLast hNil)
        rw [hAll _ (List.mem_append_left _ (List.getLast_mem hNil))] at hLast
        cases hLast

/-! ## Runs of digits and points -/

namespace Numerals

def digit : Language Char := {word | ∃ d, word = [d] ∧ isDecimalDigit d}

def point : Language Char := {['.']}

def digits : Language Char := digit * digit∗

/-- The numbers of a run that begin with a point. -/
def tails : Language Char := (point * digits)∗

end Numerals

open Numerals

/-- What runs of digits and points can be: a number, and further numbers that begin with a point. -/
def numerals : Language Char := (digits * (1 + point * digit∗) + point * digits) * (point * digits)∗

namespace Numerals

theorem mem_digit_kstar : word ∈ digit∗ ↔ ∀ c ∈ word, isDecimalDigit c := by
  induction word with
  | nil => exact iff_of_true (Language.nil_mem_kstar _) (List.forall_mem_nil _)
  | cons c word ih =>
    rw [← Language.one_add_self_mul_kstar_eq_kstar, Language.mem_add, Language.mem_one,
      Language.mem_mul, List.forall_mem_cons, ← ih]
    constructor
    · rintro (hNil | ⟨_, ⟨d, rfl, hDigit⟩, rest, hRest, hSplit⟩)
      · cases hNil
      · cases hSplit
        exact ⟨hDigit, hRest⟩
    · rintro ⟨hDigit, hRest⟩
      exact .inr ⟨[c], ⟨c, rfl, hDigit⟩, word, hRest, rfl⟩

theorem mem_digits : word ∈ digits ↔ word ≠ [] ∧ ∀ c ∈ word, isDecimalDigit c := by
  rw [digits, Language.mem_mul]
  constructor
  · rintro ⟨_, ⟨d, rfl, hDigit⟩, rest, hRest, rfl⟩
    exact ⟨List.cons_ne_nil _ _, List.forall_mem_cons.mpr ⟨hDigit, mem_digit_kstar.mp hRest⟩⟩
  · rintro ⟨hNonempty, hAll⟩
    obtain ⟨d, ds, rfl⟩ := List.exists_cons_of_ne_nil hNonempty
    obtain ⟨hFirst, hRest⟩ := List.forall_mem_cons.mp hAll
    exact ⟨[d], ⟨d, rfl, hFirst⟩, ds, mem_digit_kstar.mpr hRest, rfl⟩

theorem mem_point_mul {l : Language Char} :
    word ∈ point * l ↔ ∃ rest ∈ l, word = '.' :: rest := by
  rw [Language.mem_mul]
  constructor
  · rintro ⟨_, rfl, rest, hRest, rfl⟩
    exact ⟨rest, hRest, rfl⟩
  · rintro ⟨rest, hRest, rfl⟩
    exact ⟨['.'], rfl, rest, hRest, rfl⟩

theorem nil_mem_tails : [] ∈ tails := Language.nil_mem_kstar _

theorem mem_tails : word ∈ tails ↔ word = [] ∨
    ∃ ds rest, word = '.' :: (ds ++ rest) ∧ ds ∈ digits ∧ rest ∈ tails := by
  have hUnfold : tails = 1 + point * digits * tails :=
    (Language.one_add_self_mul_kstar_eq_kstar _).symm
  conv_lhs => rw [hUnfold, Language.mem_add, Language.mem_one, Language.mem_mul]
  refine or_congr Iff.rfl ⟨?_, ?_⟩
  · rintro ⟨_, hNumber, rest, hRest, rfl⟩
    obtain ⟨ds, hDigits, rfl⟩ := mem_point_mul.mp hNumber
    exact ⟨ds, rest, rfl, hDigits, hRest⟩
  · rintro ⟨ds, rest, rfl, hDigits, hRest⟩
    exact ⟨'.' :: ds, mem_point_mul.mpr ⟨ds, hDigits, rfl⟩, rest, hRest, rfl⟩

theorem head?_of_mem_tails (h : word ∈ tails) : ∀ c ∈ word.head?, c = '.' := by
  obtain rfl | ⟨ds, rest, rfl, -, -⟩ := mem_tails.mp h
  · exact nofun
  · rintro _ ⟨⟩
    rfl

theorem isDecimalDigit_head?_of_mem_tails (h : word ∈ tails) :
    ∀ c ∈ word.head?, isDecimalDigit c = false := by
  intro c hHead
  rw [head?_of_mem_tails h c hHead]
  decide

theorem point_mem_tails : '.' :: word ∈ tails ↔
    word.takeWhile isDecimalDigit ≠ [] ∧ word.dropWhile isDecimalDigit ∈ tails := by
  rw [mem_tails]
  constructor
  · rintro (hNil | ⟨ds, rest, hSplit, hDigits, hRest⟩)
    · cases hNil
    · cases hSplit
      obtain ⟨hNonempty, hAll⟩ := mem_digits.mp hDigits
      have hHead := isDecimalDigit_head?_of_mem_tails hRest
      rw [takeWhile_run hAll hHead, dropWhile_run hAll hHead]
      exact ⟨hNonempty, hRest⟩
  · rintro ⟨hNonempty, hRest⟩
    refine .inr ⟨_, _, ?_, mem_digits.mpr ⟨hNonempty, ?_⟩, hRest⟩
    · rw [List.takeWhile_append_dropWhile]
    · exact List.all_eq_true.mp List.all_takeWhile

/-- The first number of a run. -/
inductive IsFirst : List Char → Prop
  | whole {d ds} (hDigit : isDecimalDigit d) (hWhole : ∀ c ∈ ds, isDecimalDigit c) :
      IsFirst (d :: ds)
  | pointed {d ds es} (hDigit : isDecimalDigit d) (hWhole : ∀ c ∈ ds, isDecimalDigit c)
      (hFraction : ∀ c ∈ es, isDecimalDigit c) : IsFirst (d :: (ds ++ '.' :: es))
  | fraction {ds} (h : ds ∈ digits) : IsFirst ('.' :: ds)

theorem cons_mem_digits {ds : List Char} :
    c :: ds ∈ digits ↔ isDecimalDigit c ∧ ∀ d ∈ ds, isDecimalDigit d := by
  rw [mem_digits, List.forall_mem_cons, and_iff_right (List.cons_ne_nil _ _)]

theorem mem_first : word ∈ digits * (1 + point * digit∗) + point * digits ↔ IsFirst word := by
  rw [Language.mem_add, Language.mem_mul, mem_point_mul]
  constructor
  · rintro (⟨whole, hWhole, rest, hRest, rfl⟩ | ⟨ds, hDigits, rfl⟩)
    · obtain ⟨d, ds, rfl⟩ := List.exists_cons_of_ne_nil (mem_digits.mp hWhole).1
      obtain ⟨hDigit, hWhole⟩ := cons_mem_digits.mp hWhole
      rw [Language.mem_add, Language.mem_one, mem_point_mul] at hRest
      obtain rfl | ⟨fraction, hFraction, rfl⟩ := hRest
      · rw [List.append_nil]
        exact .whole hDigit hWhole
      · exact .pointed hDigit hWhole (mem_digit_kstar.mp hFraction)
    · exact .fraction hDigits
  · rintro (⟨hDigit, hWhole⟩ | ⟨hDigit, hWhole, hFraction⟩ | hDigits)
    · exact .inl ⟨_, cons_mem_digits.mpr ⟨hDigit, hWhole⟩, [], .inl rfl, List.append_nil _⟩
    · exact .inl ⟨_, cons_mem_digits.mpr ⟨hDigit, hWhole⟩, _,
        .inr (mem_point_mul.mpr ⟨_, mem_digit_kstar.mpr hFraction, rfl⟩), rfl⟩
    · exact .inr ⟨_, hDigits, rfl⟩

theorem mem_numerals : word ∈ numerals ↔
    ∃ first rest, word = first ++ rest ∧ IsFirst first ∧ rest ∈ tails := by
  rw [numerals, Language.mem_mul]
  constructor
  · rintro ⟨first, hFirst, rest, hRest, rfl⟩
    exact ⟨first, rest, rfl, mem_first.mp hFirst, hRest⟩
  · rintro ⟨first, rest, rfl, hFirst, hRest⟩
    exact ⟨first, mem_first.mpr hFirst, rest, hRest, rfl⟩

/-- A run that begins with a point has no number of another form. -/
theorem point_mem_numerals : '.' :: word ∈ numerals ↔ '.' :: word ∈ tails := by
  rw [mem_numerals]
  constructor
  · rintro ⟨first, rest, hSplit, hFirst, hRest⟩
    cases hFirst with
    | whole hDigit _ =>
      cases hSplit
      exact absurd hDigit (by decide)
    | pointed hDigit _ _ =>
      cases hSplit
      exact absurd hDigit (by decide)
    | fraction hDigits => exact mem_tails.mpr (.inr ⟨_, _, hSplit, hDigits, hRest⟩)
  · intro hTails
    obtain hNil | ⟨ds, rest, hSplit, hDigits, hRest⟩ := mem_tails.mp hTails
    · cases hNil
    · exact ⟨'.' :: ds, rest, hSplit, .fraction hDigits, hRest⟩

theorem afterNumber_whole {ds : List Char} (hWhole : ∀ c ∈ ds, isDecimalDigit c)
    (hRest : ∀ c ∈ rest.head?, isDecimalDigit c = false ∧ c ≠ '.') :
    afterNumber (ds ++ rest) = rest := by
  rw [afterNumber, dropWhile_run hWhole fun c hHead => (hRest c hHead).1]
  split
  · exact absurd rfl (hRest '.' rfl).2
  · rfl

theorem afterNumber_pointed {ds : List Char} (hWhole : ∀ c ∈ ds, isDecimalDigit c) :
    afterNumber (ds ++ '.' :: rest) = rest.dropWhile isDecimalDigit := by
  have hPoint : ∀ c ∈ ('.' :: rest).head?, isDecimalDigit c = false := by
    rintro _ ⟨⟩
    decide
  rw [afterNumber, dropWhile_run hWhole hPoint]
  rfl

theorem exists_afterNumber (hDigit : isDecimalDigit c) (word : List Char) :
    ∃ first, word = first ++ afterNumber word ∧ IsFirst (c :: first) := by
  have hWhole : ∀ c ∈ word.takeWhile isDecimalDigit, isDecimalDigit c :=
    List.all_eq_true.mp List.all_takeWhile
  have hSplit := (List.takeWhile_append_dropWhile (p := isDecimalDigit) (l := word)).symm
  rw [afterNumber]
  split
  · rename_i rest hRest
    have hFraction : ∀ c ∈ rest.takeWhile isDecimalDigit, isDecimalDigit c :=
      List.all_eq_true.mp List.all_takeWhile
    refine ⟨_, ?_, .pointed hDigit hWhole hFraction⟩
    rw [List.append_assoc, List.cons_append, List.takeWhile_append_dropWhile, ← hRest]
    exact hSplit
  · exact ⟨_, hSplit, .whole hDigit hWhole⟩

theorem digit_mem_numerals (hDigit : isDecimalDigit c) :
    c :: word ∈ numerals ↔ afterNumber word ∈ tails := by
  rw [mem_numerals]
  constructor
  · rintro ⟨first, rest, hSplit, hFirst, hRest⟩
    cases hFirst with
    | whole _ hWhole =>
      rw [List.cons_append] at hSplit
      obtain ⟨rfl, rfl⟩ := List.cons.inj hSplit
      cases rest with
      | nil =>
        have hNone : ∀ c ∈ [].head?, isDecimalDigit c = false ∧ c ≠ '.' := nofun
        rwa [afterNumber_whole hWhole hNone]
      | cons d es =>
        -- the point behind the digits is part of this number, not of the next
        cases head?_of_mem_tails hRest d rfl
        rw [afterNumber_pointed hWhole]
        exact (point_mem_tails.mp hRest).2
    | pointed _ hWhole hFraction =>
      rw [List.cons_append, List.append_assoc, List.cons_append] at hSplit
      obtain ⟨rfl, rfl⟩ := List.cons.inj hSplit
      rwa [afterNumber_pointed hWhole,
        dropWhile_run hFraction (isDecimalDigit_head?_of_mem_tails hRest)]
    | fraction hDigits =>
      cases hSplit
      exact absurd hDigit (by decide)
  · intro hTails
    obtain ⟨first, hSplit, hFirst⟩ := exists_afterNumber hDigit word
    exact ⟨c :: first, afterNumber word, congrArg (c :: ·) hSplit, hFirst, hTails⟩

end Numerals

/-! ## Numbers in a longer text -/

/-- A character of a number, or of several in a row. -/
def isNumeric (c : Char) : Bool := isDecimalDigit c || c = '.'

theorem isNumeric_eq_false_iff : isNumeric c = false ↔ isDecimalDigit c = false ∧ c ≠ '.' := by
  simp [isNumeric]

theorem afterNumber_append (hRight : ∀ c ∈ rest.head?, isNumeric c = false) :
    afterNumber (run ++ rest) = afterNumber run ++ rest := by
  have hDigits : ∀ c ∈ rest.head?, isDecimalDigit c = false := fun c hHead =>
    (isNumeric_eq_false_iff.mp (hRight c hHead)).1
  rw [afterNumber, afterNumber, dropWhile_append hDigits]
  cases run.dropWhile isDecimalDigit with
  | nil =>
    cases rest with
    | nil => rfl
    | cons c cs =>
      have hPoint := (isNumeric_eq_false_iff.mp (hRight c rfl)).2
      simp [hPoint]
  | cons d ds =>
    by_cases hPoint : d = '.'
    · subst hPoint
      exact dropWhile_append hDigits
    · simp [hPoint]

/-- Behind the digits of a run stands a point. -/
theorem head?_dropWhile_numeric (hAll : ∀ c ∈ run, isNumeric c) :
    ∀ c ∈ (run.dropWhile isDecimalDigit).head?, c = '.' := by
  intro c hHead
  have hNumeric := hAll c ((List.dropWhile_sublist _).subset (List.mem_of_head? hHead))
  have hDigit := List.head?_dropWhile_not isDecimalDigit run
  rw [hHead] at hDigit
  simpa [isNumeric, hDigit] using hNumeric

theorem afterNumber_numeric (hAll : ∀ c ∈ run, isNumeric c) :
    (∀ c ∈ afterNumber run, isNumeric c) ∧ ∀ c ∈ (afterNumber run).head?, c = '.' := by
  have hKept : ∀ c ∈ run.dropWhile isDecimalDigit, isNumeric c := fun c hMem =>
    hAll c ((List.dropWhile_sublist _).subset hMem)
  rw [afterNumber]
  split
  · rename_i fraction hFraction
    rw [hFraction] at hKept
    have hFraction := (List.forall_mem_cons.mp hKept).2
    exact ⟨fun c hMem => hFraction c ((List.dropWhile_sublist _).subset hMem),
      head?_dropWhile_numeric hFraction⟩
  · exact ⟨hKept, head?_dropWhile_numeric hAll⟩

end PlotLang.Expression.Vocabulary
