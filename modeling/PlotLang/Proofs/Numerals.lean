import Mathlib.Data.List.TakeWhile
import PlotLang.Number.Literal
import PlotLang.Proofs.Emission

/-! # Number tokens are literals

Digits with at most one dot and at least one digit are the text of a number without a sign and
without a power of ten. So every number a scan emits can be read.
-/

namespace PlotLang.Literal

open Text
open Lexer (isNumberPart)

variable {c : Char} {cs : List Char}

/-! ## The characters of a number token -/

def numberParts : List Char :=
  ['0', '1', '2', '3', '4', '5', '6', '7', '8', '9', '.']

theorem mem_of_isNumberPart (h : isNumberPart c) : c ∈ numberParts := by
  simp only [isNumberPart, isDigit, Bool.or_eq_true, Bool.and_eq_true, decide_eq_true_eq] at h
  obtain ⟨hLow, hHigh⟩ | rfl := h
  · obtain ⟨n, rfl⟩ : ∃ n : Fin 10, c = Char.ofNat (48 + n) := by
      have hLow : 48 ≤ c.toNat := hLow
      have hHigh : c.toNat ≤ 57 := hHigh
      refine ⟨⟨c.toNat - 48, by omega⟩, ?_⟩
      rw [Nat.add_sub_cancel' hLow, Char.ofNat_toNat]
    revert n
    decide
  · decide

theorem forall_numberParts {p : Char → Prop} [DecidablePred p] (hAll : cs.all isNumberPart)
    (h : numberParts.all fun c => decide (p c)) : ∀ c ∈ cs, p c := by
  intro c hMem
  have hPart := mem_of_isNumberPart (List.all_eq_true.mp hAll c hMem)
  exact of_decide_eq_true (List.all_eq_true.mp h c hPart)

theorem mapM_plain? (hAll : cs.all isNumberPart) : cs.mapM plain? = some cs := by
  have h : ∀ c ∈ cs, plain? c = some c := forall_numberParts hAll (by decide)
  clear hAll
  induction cs with
  | nil => rfl
  | cons c cs ih =>
    obtain ⟨hFirst, hRest⟩ := List.forall_mem_cons.mp h
    simp [List.mapM_cons, hFirst, ih hRest]

theorem core_eq (hAll : cs.all isNumberPart) : core cs = cs := by
  have h : ∀ c ∈ cs, ¬isPadding c := forall_numberParts hAll (by decide)
  have hReverse : ∀ c ∈ cs.reverse, ¬isPadding c := by simpa using h
  have hLeft : cs.dropWhile isPadding = cs :=
    List.dropWhile_eq_self_iff.mpr fun hLength => h _ (List.getElem_mem hLength)
  have hRight : cs.reverse.dropWhile isPadding = cs.reverse :=
    List.dropWhile_eq_self_iff.mpr fun hLength => hReverse _ (List.getElem_mem hLength)
  rw [core, hLeft, hRight, List.reverse_reverse]

theorem sign_eq (hAll : cs.all isNumberPart) : sign cs = (false, cs) := by
  have h : ∀ c ∈ cs, c ≠ '-' ∧ c ≠ '+' := forall_numberParts hAll (by decide)
  unfold sign
  split
  · exact absurd rfl (h _ List.mem_cons_self).1
  · exact absurd rfl (h _ List.mem_cons_self).2
  · rfl

theorem lower_eq (hAll : cs.all isNumberPart) : lower cs = String.ofList cs := by
  have h : ∀ c ∈ cs, c.toLower = c := forall_numberParts hAll (by decide)
  have hLower : lower cs = (String.ofList cs).map Char.toLower := rfl
  rw [hLower, ← String.toList_inj, String.toList_map, String.toList_ofList,
    List.map_congr_left h, List.map_id']

theorem dropUnderscores?_eq (hAll : cs.all isNumberPart) (before : Char) :
    dropUnderscores? before cs = some cs := by
  have h : ∀ c ∈ cs, c ≠ '_' := forall_numberParts hAll (by decide)
  clear hAll
  induction cs generalizing before with
  | nil => rfl
  | cons c cs ih =>
    obtain ⟨hFirst, hRest⟩ := List.forall_mem_cons.mp h
    simp [dropUnderscores?, hFirst, ih c hRest]

/-! ## Its digits -/

theorem readDigits_eq_of_dot {whole fraction : List Char} (hWhole : whole.all isDigit)
    (hFraction : fraction.all isDigit) :
    readDigits (whole ++ '.' :: fraction) = (⟨whole, fraction⟩, []) := by
  rw [List.all_eq_true] at hWhole hFraction
  have hTake : fraction.takeWhile isDigit = fraction := List.takeWhile_eq_self_iff.mpr hFraction
  have hDrop : fraction.dropWhile isDigit = [] := List.dropWhile_eq_nil_iff.mpr hFraction
  have hDot : isDigit '.' = false := rfl
  rw [readDigits, List.takeWhile_append_of_pos hWhole, List.dropWhile_append_of_pos hWhole]
  simp [hDot, hTake, hDrop]

theorem readDigits_eq_of_digits (h : cs.all isDigit) : readDigits cs = (⟨cs, []⟩, []) := by
  rw [List.all_eq_true] at h
  rw [readDigits, List.takeWhile_eq_self_iff.mpr h, List.dropWhile_eq_nil_iff.mpr h]

/-- The characters of a number token are digits, or digits on both sides of its one dot. -/
theorem digits_or_dotted (hAll : cs.all isNumberPart) (hDots : cs.count '.' ≤ 1) :
    cs.all isDigit ∨ ∃ whole fraction,
      cs = whole ++ '.' :: fraction ∧ whole.all isDigit ∧ fraction.all isDigit := by
  by_cases hMem : '.' ∈ cs
  · obtain ⟨whole, fraction, rfl⟩ := List.append_of_mem hMem
    simp only [List.all_append, List.all_cons, Bool.and_eq_true] at hAll
    simp only [List.count_append, List.count_cons_self] at hDots
    refine .inr ⟨whole, fraction, rfl, ?_, ?_⟩
    · exact Lexer.all_isDigit_of_count_eq_zero hAll.1 (by omega)
    · exact Lexer.all_isDigit_of_count_eq_zero hAll.2.2 (by omega)
  · exact .inl (Lexer.all_isDigit_of_count_eq_zero hAll (List.count_eq_zero.mpr hMem))

theorem readDigits_eq (hAll : cs.all isNumberPart) (hDots : cs.count '.' ≤ 1) (hSome : cs ≠ [])
    (hDot : cs ≠ ['.']) : ∃ ds, readDigits cs = (ds, []) ∧ ds.all ≠ [] := by
  obtain hDigits | ⟨whole, fraction, rfl, hWhole, hFraction⟩ := digits_or_dotted hAll hDots
  · exact ⟨⟨cs, []⟩, readDigits_eq_of_digits hDigits, by simpa [Digits.all] using hSome⟩
  · refine ⟨⟨whole, fraction⟩, readDigits_eq_of_dot hWhole hFraction, fun hNil => hDot ?_⟩
    obtain ⟨rfl, rfl⟩ := List.append_eq_nil_iff.mp hNil
    rfl

/-! ## Its value -/

theorem real?_of_readDigits {ds : Digits} (hAll : cs.all isNumberPart)
    (hDigits : readDigits cs = (ds, [])) (hSome : ds.all ≠ []) :
    real? (String.ofList cs) = some (ds.scaled false 0) := by
  have hName : ∀ name ∈ ["inf", "infinity", "nan"], String.ofList cs ≠ name := by
    have hLetters : ∀ name ∈ ["inf", "infinity", "nan"], name.toList.all isNumberPart = false := by
      decide
    intro name hMem hEq
    have hParts := hLetters name hMem
    rw [← hEq, String.toList_ofList, hAll] at hParts
    cases hParts
  rw [real?, String.toList_ofList, core_eq hAll, mapM_plain? hAll]
  simp only [Option.bind_eq_bind, Option.bind_some, sign_eq hAll, lower_eq hAll,
    dropUnderscores?_eq hAll, hDigits, power?]
  simp only [List.mem_cons, List.not_mem_nil, or_false, forall_eq_or_imp, forall_eq] at hName
  simp [hName, hSome]

theorem real?_of_numberParts (hAll : cs.all isNumberPart) (hDots : cs.count '.' ≤ 1)
    (hSome : cs ≠ []) (hDot : cs ≠ ['.']) :
    ∃ ds : Digits, real? (String.ofList cs) = some (ds.scaled false 0) := by
  obtain ⟨ds, hDigits, hNonempty⟩ := readDigits_eq hAll hDots hSome hDot
  exact ⟨ds, real?_of_readDigits hAll hDigits hNonempty⟩

theorem real?_of_spelt {before : List Token} {t : Token} (h : Lexer.Spelt before t)
    (hKind : t.kind ∈ Token.Kind.numbers) :
    ∃ ds : Digits, real? t.text = some (ds.scaled false 0) := by
  obtain ⟨line, kind, text⟩ := t
  obtain ⟨cs, rfl⟩ : ∃ cs, text = String.ofList cs := ⟨text.toList, String.ofList_toList.symm⟩
  simp only [Token.Kind.numbers, List.mem_cons, List.not_mem_nil, or_false] at hKind
  obtain rfl | rfl := hKind
  · obtain ⟨hSome, hDigits⟩ := h
    rw [String.toList_ofList] at hDigits
    have hAll : cs.all isNumberPart := by
      rw [List.all_eq_true] at hDigits ⊢
      exact fun c hMem => by simp [isNumberPart, hDigits c hMem]
    have hCount : cs.count '.' = 0 := by
      refine List.count_eq_zero.mpr fun hMem => ?_
      cases List.all_eq_true.mp hDigits '.' hMem
    refine real?_of_numberParts hAll (by omega) ?_ ?_
    · rintro rfl
      exact hSome rfl
    · rintro rfl
      cases hCount
  · obtain ⟨hDot, hAll, hCount⟩ := h
    rw [String.toList_ofList] at hAll hCount
    refine real?_of_numberParts hAll (by omega) ?_ ?_
    · rintro rfl
      cases hCount
    · rintro rfl
      exact hDot rfl

end PlotLang.Literal
