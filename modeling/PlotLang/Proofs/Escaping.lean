import PlotLang.Proofs.Tags

/-! # Escaped texts

Four replacements one after another replace each character once, because no entity holds a character
that is replaced after its own. In an escaped text an ampersand can only begin an entity, so undoing
the entities from left to right gives back every text, also one that looks escaped already.
-/

namespace PlotLang.Markup

open Reader (decode decode_escape entities)

variable {cs ds after : List Char}

/-- An ampersand that is not in the first part of a text is in the second. -/
theorem suffix_of_append (hNone : '&' ∉ cs) (h : '&' :: after <:+ cs ++ ds) :
    '&' :: after <:+ ds := by
  induction cs with
  | nil => exact h
  | cons c cs ih =>
    rw [List.mem_cons, not_or] at hNone
    obtain hHead | hTail := List.suffix_cons_iff.mp h
    · exact absurd (List.cons.inj hHead).1 hNone.1
    · exact ih hNone.2 hTail

theorem entity_of_ampersand (h : '&' :: after <:+ escape cs) :
    ∃ entity ∈ entities, entity.1 <+: after := by
  rw [escape_eq_flatMap] at h
  induction cs with
  | nil => cases List.suffix_nil.mp h
  | cons c cs ih =>
    rw [List.flatMap_cons] at h
    obtain ⟨name, hName, hEntity⟩ | ⟨⟨hAmp, -⟩, hSame⟩ := escapeChar_cases c
    · rw [hEntity, List.cons_append] at h
      obtain hHead | hTail := List.suffix_cons_iff.mp h
      · exact ⟨_, hName, _, (List.cons.inj hHead).2.symm⟩
      · exact ih (suffix_of_append (special_notMem_entity hName).1 hTail)
    · rw [hSame] at h
      exact ih (suffix_of_append (by simpa using hAmp.symm) h)

/-- Escaping replaces every character by itself or by its entity. No delimiter is left, each
ampersand begins an entity, and one pass over the entities undoes it. -/
theorem escape_reversible (a b : List Char) :
    escape a = a.flatMap escapeChar ∧ escape (a ++ b) = escape a ++ escape b ∧
      (∀ c ∈ escape a, c ≠ '<' ∧ c ≠ '>' ∧ c ≠ '"') ∧
      (∀ after, '&' :: after <:+ escape a → ∃ entity ∈ entities, entity.1 <+: after) ∧
      decode (escape a) = a ∧ (escape a = escape b → a = b) :=
  ⟨escape_eq_flatMap a, escape_append a b, fun _ => delimiter_notMem_escape,
    fun _ => entity_of_ampersand, decode_escape a,
    fun h => Function.LeftInverse.injective decode_escape h⟩

/-- A text with an entity in it and the character that the entity stands for. -/
theorem escape_reversible_lookalike : escape "&lt;".toList = "&amp;lt;".toList ∧
    escape "<".toList = "&lt;".toList ∧ decode (escape "&lt;".toList) = "&lt;".toList ∧
    ∃ entity ∈ entities, entity.1 <+: "amp;lt;".toList := by
  obtain ⟨-, -, -, hEntity, hDecode, -⟩ := escape_reversible "&lt;".toList "<".toList
  exact ⟨by decide, by decide, hDecode, hEntity _ (List.suffix_refl _)⟩

end PlotLang.Markup
