import PlotLang.Proofs.Failures
import PlotLang.Proofs.Progress
import PlotLang.Proofs.StrictBlocks

/-! # No lapse

A scan reads its whole source, each step at least one character of it. Every number it emits can be
read, and the strict builder follows the other one to the end of the tokens. So from any source the
strict builder comes to the summary of a program or to a fault that a diagnostic describes, and it
never takes a token where there is none, unpacks another count of values than it has read, or looks
for a key that is absent.
-/

namespace PlotLang

namespace Strict

open Builder (Fault)
open Token (Kind)

variable {ts : List Token}

theorem build_eq (hReadable : ∀ text, Builder.build ts ≠ .error (.unreadableNumber text)) :
    build ts = (Builder.build ts).mapError .fault := by
  have hAlike := build_endAlike ts
  generalize build ts = x at hAlike
  generalize Builder.build ts = y at hAlike hReadable
  cases hAlike with
  | built p => rfl
  | fault cause => rfl
  | unreadable text => exact absurd rfl (hReadable text)

/-- Tokens that no scan emits may lapse. -/
example : build [⟨1, .define, "define"⟩, ⟨1, .newIdentifier, "x"⟩, ⟨1, .keyword, "max"⟩,
    ⟨1, .integer, "one"⟩, ⟨1, .declaration, "end"⟩] = .error (.lapse (.unreadable "one")) := by
  cbv

theorem buildChecked_eq (hEmitted : Lexer.Emitted ts) :
    buildChecked ts = (Builder.buildChecked ts).mapError .fault := by
  rw [buildChecked, Builder.buildChecked]
  cases hCheck : Structure.check ts with
  | error error => rfl
  | ok _ => exact build_eq (Grammar.build_ne_unreadableNumber hCheck hEmitted)

theorem tokens_eq (source : String) :
    tokens source = (Compilation.tokens source).2.mapError .fault := by
  rw [tokens, Compilation.tokens]
  rcases hScan : Lexer.scan source with ⟨final, _ | error⟩
  · have hRest : final.rest = [] := Lexer.run_rest_eq_nil (s := .start source) (Nat.le_refl _) hScan
    dsimp only
    rw [if_pos (List.isEmpty_iff.mpr hRest)]
    rfl
  · rfl

/-- From any source the strict builder comes to the summary of the program that is built, or to the
fault that is met instead: one of the scan, or one of the building with a diagnostic. Every number
that is emitted can be read, also before a scan fails. -/
theorem summary_never_lapses (source : String) :
    (∀ t ∈ (Lexer.scan source).1.tokens.toList, t.kind ∈ Kind.numbers →
      Literal.real? t.text ≠ none) ∧
    ((∃ p, (Compilation.program source).2 = .ok p ∧ summary source = .ok (Summary.lines p)) ∨
      (∃ error, (Compilation.program source).2 = .error (.scanning error) ∧
        summary source = .error (.fault (.scanning error))) ∨
      ∃ cause, (Compilation.program source).2 = .error (.building cause) ∧
        (∀ text, cause ≠ .unreadableNumber text) ∧
        summary source = .error (.fault (.building cause))) := by
  have hEmitted := (Lexer.scan_keeps source).faithful.emitted
  refine ⟨fun t hMem hKind => Grammar.number?_ne_none_of_emitted hEmitted hMem hKind, ?_⟩
  rw [summary, tokens_eq, Compilation.program, Compilation.tokens]
  rcases hScan : Lexer.scan source with ⟨final, _ | error⟩
  · rw [hScan] at hEmitted
    have hChecked := buildChecked_eq hEmitted
    rcases hBuild : Builder.buildChecked final.tokens.toList with cause | p
    · rw [hBuild] at hChecked
      have hDiagnosed := Grammar.diagnosed_of_buildChecked hEmitted hBuild
      refine .inr (.inr ⟨cause, by simp [hBuild], ?_, ?_⟩)
      · rintro text rfl
        exact hDiagnosed rfl
      · simp [Except.mapError, hChecked, Stop.map]
    · rw [hBuild] at hChecked
      refine .inl ⟨p, by simp [hBuild], ?_⟩
      simp [Except.mapError, hChecked]
  · exact .inr (.inl ⟨error, rfl, rfl⟩)

end Strict

end PlotLang
