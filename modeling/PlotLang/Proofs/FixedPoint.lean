import PlotLang.Number.Decimal
import PlotLang.Proofs.Numerals
import PlotLang.Proofs.Rounding

/-! # Numbers with a given number of places

A finite number is written in its shortest form: no zero stands before other digits or at the end of
the places. Read back, the text denotes the exact value rounded to the places, and a minus sign
stands before it exactly if the value is negative.
-/

namespace PlotLang

namespace Decimal

open Literal (readDigits sign)
open Text (isDigit)

variable {cs whole fraction : List Char} {count places : ℕ}

/-! ## Numerals -/

/-- Digits before a point: at least one, and no zero before another. -/
structure IsWhole (cs : List Char) : Prop where
  nonempty : cs ≠ []
  digits : ∀ c ∈ cs, isDigit c
  leading : cs.head? = some '0' → cs = ['0']

/-- Digits after a point: at least one and not too many, and no zero at the end. -/
structure IsFraction (places : ℕ) (cs : List Char) : Prop where
  nonempty : cs ≠ []
  digits : ∀ c ∈ cs, isDigit c
  length_le : cs.length ≤ places
  last : cs.getLast? ≠ some '0'

inductive IsNumeral (places : ℕ) : List Char → Prop
  | whole {cs : List Char} (h : IsWhole cs) : IsNumeral places cs
  | pointed {whole fraction : List Char} (hWhole : IsWhole whole)
    (hFraction : IsFraction places fraction) : IsNumeral places (whole ++ '.' :: fraction)

def signed (negative : Bool) (size : ℚ) : ℚ := if negative then -size else size

/-- The number that digits denote, with a sign before them and a point among them. -/
def number? (cs : List Char) : Option ℚ :=
  let (negative, body) := sign cs
  let (ds, rest) := readDigits body
  if ds.whole.isEmpty || !rest.isEmpty then none
  else some (signed negative (Literal.value ds.all / 10 ^ ds.fraction.length))

theorem isNumberPart_pointAfter (hWhole : whole.all isDigit) (hFraction : fraction.all isDigit) :
    (pointAfter whole fraction false).all Lexer.isNumberPart := by
  have hPart : ∀ c, isDigit c → Lexer.isNumberPart c := by
    intro c hDigit
    simp [Lexer.isNumberPart, hDigit]
  rw [List.all_eq_true] at hWhole hFraction ⊢
  intro c hMem
  simp only [pointAfter, Bool.false_eq_true, if_false] at hMem
  split at hMem
  · exact hPart c (hWhole c hMem)
  · simp only [List.mem_append, List.mem_cons] at hMem
    obtain hMem | rfl | hMem := hMem
    · exact hPart c (hWhole c hMem)
    · rfl
    · exact hPart c (hFraction c hMem)

theorem readDigits_pointAfter (hWhole : whole.all isDigit) (hFraction : fraction.all isDigit) :
    readDigits (pointAfter whole fraction false) = (⟨whole, fraction⟩, []) := by
  simp only [pointAfter, Bool.false_eq_true, if_false]
  split
  · rename_i hEmpty
    rw [List.isEmpty_iff.mp hEmpty]
    exact Literal.readDigits_eq_of_digits hWhole
  · exact Literal.readDigits_eq_of_dot hWhole hFraction

theorem number?_withSign (negative : Bool) (hSome : whole ≠ []) (hWhole : whole.all isDigit)
    (hFraction : fraction.all isDigit) :
    number? (withSign negative (pointAfter whole fraction false)) =
      some (signed negative (Literal.value (whole ++ fraction) / 10 ^ fraction.length)) := by
  have hDigits := readDigits_pointAfter hWhole hFraction
  have hSign : sign (withSign negative (pointAfter whole fraction false)) =
      (negative, pointAfter whole fraction false) := by
    cases negative with
    | true => rfl
    | false => exact Literal.sign_eq (isNumberPart_pointAfter hWhole hFraction)
  simp [number?, hSign, hDigits, hSome, Literal.Digits.all]

/-! ## Digits of a count -/

theorem isDigit_of_mem_digits {n : ℕ} {c : Char} (h : c ∈ digits n) : isDigit c := by
  have hDigit := Nat.isDigit_of_mem_toDigits (by decide) (by decide) h
  simp only [Char.isDigit, Bool.and_eq_true, decide_eq_true_eq] at hDigit
  exact Bool.and_eq_true_iff.mpr ⟨decide_eq_true hDigit.1, decide_eq_true hDigit.2⟩

theorem head?_digits_ne_zero {n : ℕ} (h : n ≠ 0) : (digits n).head? ≠ some '0' := by
  induction n using Nat.strong_induction_on with
  | _ n ih =>
    have hDigit : ∀ d < 10, d ≠ 0 → d.digitChar ≠ '0' := by decide
    rw [digits, Nat.toDigits_eq_if (by decide)]
    split
    · rename_i hSmall
      simpa using hDigit n hSmall h
    · rename_i hLarge
      have hSome : Nat.toDigits 10 (n / 10) ≠ [] := Nat.toDigits_ne_nil
      rw [List.head?_append_of_ne_nil _ hSome]
      exact ih (n / 10) (by omega) (by omega)

theorem placeDigits_append (count places : ℕ) :
    (placeDigits count places).1 ++ (placeDigits count places).2 =
      List.replicate (places + 1 - (digits count).length) '0' ++ digits count := by
  rw [placeDigits]
  simp only [List.splitAt_eq, List.take_append_drop]

theorem value_placeDigits (count places : ℕ) :
    Literal.value ((placeDigits count places).1 ++ (placeDigits count places).2) = count := by
  rw [placeDigits_append, Literal.value, Nat.ofDigitChars_append, Nat.ofDigitChars_replicate_zero,
    Nat.mul_zero]
  exact Nat.ofDigitChars_ten_toDigits

theorem isDigit_of_mem_placeDigits {c : Char}
    (h : c ∈ (placeDigits count places).1 ++ (placeDigits count places).2) : isDigit c := by
  rw [placeDigits_append, List.mem_append] at h
  obtain hZero | hDigit := h
  · cases List.eq_of_mem_replicate hZero
    rfl
  · exact isDigit_of_mem_digits hDigit

theorem length_placeDigits_snd (count places : ℕ) :
    (placeDigits count places).2.length = places := by
  rw [placeDigits]
  simp only [List.splitAt_eq, List.length_drop, List.length_append, List.length_replicate]
  omega

theorem isWhole_placeDigits (count places : ℕ) : IsWhole (placeDigits count places).1 := by
  have hPositive : 0 < (digits count).length := Nat.length_toDigits_pos
  have hWhole : (placeDigits count places).1 =
      (List.replicate (places + 1 - (digits count).length) '0' ++ digits count).take
        (places + 1 - (digits count).length + (digits count).length - places) := by
    rw [placeDigits]
    simp only [List.splitAt_eq, List.length_append, List.length_replicate]
  refine ⟨?_, fun c hMem => isDigit_of_mem_placeDigits (List.mem_append_left _ hMem), ?_⟩
  · rw [hWhole, ← List.length_pos_iff, List.length_take, List.length_append, List.length_replicate]
    omega
  · intro hHead
    rw [hWhole] at hHead ⊢
    by_cases hLong : places < (digits count).length
    · -- no zero is put before the digits, so the first is zero only if the count is
      have hPad : places + 1 - (digits count).length = 0 := by omega
      have hTaken : (digits count).length - places ≠ 0 := by omega
      rw [hPad, List.replicate_zero, List.nil_append, Nat.zero_add] at hHead ⊢
      rw [List.head?_take, if_neg hTaken] at hHead
      have hZero : count = 0 := by
        by_contra hCount
        exact head?_digits_ne_zero hCount hHead
      subst hZero
      have hDigits : digits 0 = ['0'] := rfl
      rw [hDigits] at hLong ⊢
      have hPlaces : places = 0 := by simpa using hLong
      subst hPlaces
      rfl
    · have hOne : places + 1 - (digits count).length + (digits count).length - places = 1 := by
        omega
      obtain ⟨pad, hPad⟩ : ∃ pad, places + 1 - (digits count).length = pad + 1 :=
        ⟨places - (digits count).length, by omega⟩
      rw [hOne, hPad, List.replicate_succ]
      rfl

theorem exists_replicate_zero (cs : List Char) :
    ∃ dropped, cs = dropTrailingZeros cs ++ List.replicate dropped '0' := by
  have hZeros : ∀ c ∈ cs.reverse.takeWhile (· = '0'), c = '0' := by
    intro c hMem
    simpa using List.mem_takeWhile_imp hMem
  refine ⟨(cs.reverse.takeWhile (· = '0')).length, ?_⟩
  rw [dropTrailingZeros, ← List.reverse_replicate, ← List.eq_replicate_of_mem hZeros,
    ← List.reverse_append, List.takeWhile_append_dropWhile, List.reverse_reverse]

theorem getLast?_dropTrailingZeros (cs : List Char) :
    (dropTrailingZeros cs).getLast? ≠ some '0' := by
  intro hLast
  rw [dropTrailingZeros, List.getLast?_reverse] at hLast
  have hFirst := List.head?_dropWhile_not (· = '0') cs.reverse
  rw [hLast] at hFirst
  simp at hFirst

/-! ## A count of places as a numeral -/

/-- The text of a count of 10^-places. -/
def numeral (count places : ℕ) : List Char :=
  pointAfter (placeDigits count places).1 (dropTrailingZeros (placeDigits count places).2) false

theorem fixed_finite (negative : Bool) (units : ℕ) (fits : Binary64.Fits units) (places : ℕ) :
    fixed (.finite negative units fits) places =
      withSign (negative && units != 0) (numeral (roundPlaces units places) places) := by
  rfl

theorem dropTrailingZeros_subset (cs : List Char) : dropTrailingZeros cs ⊆ cs := by
  obtain ⟨dropped, hDropped⟩ := exists_replicate_zero cs
  intro c hMem
  rw [hDropped]
  exact List.mem_append_left _ hMem

theorem isNumeral_numeral (count places : ℕ) : IsNumeral places (numeral count places) := by
  have hWhole := isWhole_placeDigits count places
  unfold numeral pointAfter
  split
  · exact .whole hWhole
  · rename_i hSome
    refine .pointed hWhole ⟨fun hNil => hSome (List.isEmpty_iff.mpr hNil), ?_, ?_, ?_⟩
    · intro c hMem
      exact isDigit_of_mem_placeDigits (List.mem_append_right _ (dropTrailingZeros_subset _ hMem))
    · obtain ⟨dropped, hDropped⟩ := exists_replicate_zero (placeDigits count places).2
      have hLength := congrArg List.length hDropped
      rw [length_placeDigits_snd, List.length_append] at hLength
      omega
    · exact getLast?_dropTrailingZeros _

theorem IsNumeral.ne_nil (h : IsNumeral places cs) : cs ≠ [] := by
  cases h with
  | whole hWhole => exact hWhole.nonempty
  | pointed hWhole _ => exact List.append_ne_nil_of_left_ne_nil hWhole.nonempty _

theorem all_isDigit_placeDigits (count places : ℕ) : (placeDigits count places).1.all isDigit ∧
    (dropTrailingZeros (placeDigits count places).2).all isDigit := by
  have hDigits : ∀ c ∈ (placeDigits count places).1 ++ (placeDigits count places).2, isDigit c :=
    fun c hMem => isDigit_of_mem_placeDigits hMem
  obtain ⟨hWhole, hFraction⟩ := List.forall_mem_append.mp hDigits
  exact ⟨List.all_eq_true.mpr hWhole, List.all_eq_true.mpr fun c hMem =>
    hFraction c (dropTrailingZeros_subset _ hMem)⟩

theorem isNumberPart_numeral (count places : ℕ) :
    (numeral count places).all Lexer.isNumberPart := by
  obtain ⟨hWhole, hKept⟩ := all_isDigit_placeDigits count places
  exact isNumberPart_pointAfter hWhole hKept

theorem number?_numeral (negative : Bool) (count places : ℕ) :
    number? (withSign negative (numeral count places)) =
      some (signed negative (count / 10 ^ places)) := by
  obtain ⟨hWhole, hKept⟩ := all_isDigit_placeDigits count places
  obtain ⟨dropped, hDropped⟩ := exists_replicate_zero (placeDigits count places).2
  have hRead := number?_withSign negative (isWhole_placeDigits count places).nonempty hWhole hKept
  have hValue := value_placeDigits count places
  have hLength := length_placeDigits_snd count places
  rw [numeral, hRead]
  -- the zeros that are left out only move the point
  generalize (placeDigits count places).1 = whole at hValue ⊢
  generalize (placeDigits count places).2 = fraction at hValue hLength hDropped ⊢
  generalize dropTrailingZeros fraction = kept at hDropped ⊢
  have hSize : (count : ℚ) / 10 ^ places = Literal.value (whole ++ kept) / 10 ^ kept.length := by
    have hCount : count = 10 ^ dropped * Literal.value (whole ++ kept) := by
      rw [← hValue, hDropped, ← List.append_assoc, Literal.value, Nat.ofDigitChars_append,
        Nat.ofDigitChars_replicate_zero]
      rfl
    have hPlaces : places = kept.length + dropped := by
      rw [← hLength, hDropped, List.length_append, List.length_replicate]
    rw [hCount, hPlaces, div_eq_div_iff (by positivity) (by positivity)]
    push_cast
    ring
  rw [hSize]

end Decimal

/-! ## The value of a number and of its text -/

namespace Binary64

variable {negative : Bool} {units : ℕ} {fits : Fits units}

theorem unitsInOne_pos : 0 < unitsInOne := by
  unfold unitsInOne
  generalize 1074 = n
  exact Nat.two_pow_pos n

theorem cast_unitsInOne_pos : (0 : ℚ) < unitsInOne := Nat.cast_pos.mpr unitsInOne_pos

theorem value_finite :
    (finite negative units fits).value = Decimal.signed negative (units / unitsInOne) := by
  cases negative with
  | true =>
    rw [value, signedUnits]
    push_cast
    exact neg_div _ _
  | false =>
    rw [value, signedUnits]
    push_cast
    rfl

theorem decide_value_finite_lt_zero :
    decide ((finite negative units fits).value < 0) = (negative && units != 0) := by
  have hPositive := cast_unitsInOne_pos
  rw [Bool.eq_iff_iff, decide_eq_true_eq, value_finite, Decimal.signed]
  generalize (unitsInOne : ℚ) = one at hPositive ⊢
  have hNonneg : (0 : ℚ) ≤ (units : ℚ) / one := div_nonneg (Nat.cast_nonneg _) hPositive.le
  cases negative with
  | true => simp [div_pos_iff_of_pos_right hPositive, Nat.pos_iff_ne_zero]
  | false => simpa using hNonneg

/-- The value of a zero has no sign. -/
theorem value_finite_eq_signed : (finite negative units fits).value =
    Decimal.signed (negative && units != 0) (units / unitsInOne) := by
  rw [value_finite]
  generalize (unitsInOne : ℚ) = one
  by_cases hZero : units = 0
  · subst hZero
    cases negative <;> simp [Decimal.signed]
  · rw [bne_iff_ne.mpr hZero, Bool.and_true]

end Binary64

namespace Decimal

open Binary64 (decide_value_finite_lt_zero value_finite_eq_signed)

variable {x y : Binary64}

theorem isRounded_roundPlaces (units places : ℕ) :
    IsRounded places ((units : ℚ) / Binary64.unitsInOne)
      ((roundPlaces units places : ℚ) / 10 ^ places) := by
  refine ⟨roundPlaces units places, ?_, rfl⟩
  have hNearest := isNearest_roundDiv (units * Nat.pow 10 places) Binary64.unitsInOne_pos
  have hScaled : ((units * Nat.pow 10 places : ℕ) : ℚ) / Binary64.unitsInOne =
      (units : ℚ) / Binary64.unitsInOne * 10 ^ places := by
    rw [Nat.pow_eq, div_mul_eq_mul_div]
    push_cast
    rfl
  rw [hScaled] at hNearest
  exact hNearest

theorem isRounded_signed {q r : ℚ} (negative : Bool) (h : IsRounded places q r) :
    IsRounded places (signed negative q) (signed negative r) := by
  cases negative with
  | true => exact h.neg
  | false => exact h

/-- A number is written as the numeral of its rounded size, after its sign. -/
theorem exists_fixed (h : x.isFinite) (places : ℕ) : ∃ count : ℕ,
    fixed x places = withSign (x.value < 0) (numeral count places) ∧
      IsRounded places x.value (signed (x.value < 0) (count / 10 ^ places)) := by
  cases x with
  | nan => cases h
  | infinite negative => cases h
  | finite negative units fits =>
    refine ⟨roundPlaces units places, ?_, ?_⟩
    · rw [fixed_finite, decide_value_finite_lt_zero]
    · rw [decide_value_finite_lt_zero, value_finite_eq_signed]
      exact isRounded_signed _ (isRounded_roundPlaces units places)

theorem exists_number?_fixed (h : x.isFinite) (places : ℕ) :
    ∃ r, number? (fixed x places) = some r ∧ IsRounded places x.value r := by
  obtain ⟨count, hText, hRounded⟩ := exists_fixed h places
  exact ⟨_, by rw [hText, number?_numeral], hRounded⟩

theorem number?_fixed_eq_none (h : x.isFinite = false) (places : ℕ) :
    number? (fixed x places) = none := by
  cases x with
  | nan => rfl
  | infinite negative => cases negative <;> rfl
  | finite negative units fits => cases h

theorem fixed_ne_nil (x : Binary64) (places : ℕ) : fixed x places ≠ [] := by
  cases x with
  | nan => exact List.cons_ne_nil _ _
  | infinite negative => cases negative <;> exact List.cons_ne_nil _ _
  | finite negative units fits =>
    rw [fixed_finite]
    cases negative && units != 0 with
    | true => exact List.cons_ne_nil _ _
    | false => exact (isNumeral_numeral _ places).ne_nil

theorem blank_notMem_fixed (x : Binary64) (places : ℕ) : ' ' ∉ fixed x places := by
  cases x with
  | nan =>
    have hText : fixed .nan places = ['n', 'a', 'n'] := rfl
    rw [hText]
    decide
  | infinite negative =>
    have hText : fixed (.infinite negative) places = withSign negative ['i', 'n', 'f'] := rfl
    rw [hText]
    clear hText
    revert negative
    decide
  | finite negative units fits =>
    have hNumeral : ' ' ∉ numeral (roundPlaces units places) places := fun hMem =>
      absurd (List.all_eq_true.mp (isNumberPart_numeral _ places) _ hMem) (by decide)
    rw [fixed_finite]
    cases negative && units != 0 with
    | true => exact List.not_mem_cons_of_ne_of_not_mem (by decide) hNumeral
    | false => exact hNumeral

/-- The text of a finite number is a numeral, after a minus sign if the number is negative, and
denotes the exact value rounded to the places. -/
theorem fixed_denotes_rounded (h : x.isFinite) (places : ℕ) : ∃ (cs : List Char) (r : ℚ),
    IsNumeral places cs ∧
      fixed x places = (if x.value < 0 then '-' :: cs else cs) ∧
      number? (fixed x places) = some r ∧ IsRounded places x.value r := by
  obtain ⟨count, hText, hRounded⟩ := exists_fixed h places
  refine ⟨numeral count places, _, isNumeral_numeral count places, ?_, ?_, hRounded⟩
  · rw [hText, withSign]
    simp only [decide_eq_true_eq]
  · rw [hText, number?_numeral]

/-- A carry over all places of -9.9996 lengthens the whole part, whose zero stays. -/
theorem fixed_denotes_rounded_carry :
    (Binary64.ofRatio true 99996 10000).isFinite = true ∧
      fixed (Binary64.ofRatio true 99996 10000) 3 = ['-', '1', '0'] ∧
      ∃ (cs : List Char) (r : ℚ), IsNumeral 3 cs ∧
        fixed (Binary64.ofRatio true 99996 10000) 3 =
          (if (Binary64.ofRatio true 99996 10000).value < 0 then '-' :: cs else cs) ∧
        number? (fixed (Binary64.ofRatio true 99996 10000) 3) = some r ∧
        IsRounded 3 (Binary64.ofRatio true 99996 10000).value r := by
  have hFinite : (Binary64.ofRatio true 99996 10000).isFinite = true := by decide +kernel
  exact ⟨hFinite, by decide +kernel, fixed_denotes_rounded hFinite 3⟩

end Decimal

end PlotLang
