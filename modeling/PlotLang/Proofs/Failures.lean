import PlotLang.Proofs.Machine
import PlotLang.Proofs.DrawnTags

/-! # Failures without a diagnostic

A scan fails with a diagnostic, and so does the builder on what a scan emits: every number it meets
can be read. The box of an accepted program may be infinitely wide, and the library may raise an
exception that is not expected of its call. Drawing a graph then fails with neither a document nor a
diagnostic, and in no other way.
-/

namespace PlotLang

namespace Grammar

variable {tokens : List Token} {fault : Builder.Fault}

theorem build_ne_unreadableNumber (hCheck : Structure.check tokens = .ok ())
    (hEmitted : Lexer.Emitted tokens) (text : String) :
    Builder.build tokens ≠ .error (.unreadableNumber text) := by
  intro hBuild
  obtain ⟨taken, ⟨hTokens, -⟩, hBlames⟩ := stops_of_check hCheck
  have hTokens : tokens = taken ++ (Builder.collect tokens).cursor.rest := hTokens
  obtain ⟨t, hTaken, hKind, -, hNone⟩ := hBlames _ hBuild
  have hMem : t ∈ tokens := hTokens ▸ List.mem_append_left _ hTaken
  exact number?_ne_none_of_emitted hEmitted hMem hKind hNone

theorem diagnosed_of_buildChecked (hEmitted : Lexer.Emitted tokens)
    (h : Builder.buildChecked tokens = .error fault) :
    (Failure.building fault).diagnostic? ≠ none := by
  -- only a number that cannot be read has no diagnostic, and a scan emits none
  have hReadable : ∀ text, fault ≠ .unreadableNumber text := by
    rintro text rfl
    obtain ⟨error, -, hError⟩ | ⟨hCheck, hBuild⟩ := buildChecked_eq_error_iff.mp h
    · cases hError
    · exact build_ne_unreadableNumber hCheck hEmitted text hBuild
  cases fault with
  | unreadableNumber text => exact absurd rfl (hReadable text)
  | _ => exact Option.some_ne_none _

end Grammar

namespace Expression

open Grammar (except_bind_eq_error_iff except_bind_eq_ok_iff mapError_eq_ok_iff
  mapError_eq_error_iff)

variable {library : Library} {text : String} {e : Raised} {f : Compiled}

theorem ofRaised_eq_raised_iff {kinds : List Raised.Kind} {fault : String → Fault}
    {cause : Raised} : Failure.ofRaised kinds text fault cause = .raised e ↔
      cause = e ∧ e.isAny kinds = false := by
  rw [Failure.ofRaised]
  split
  · rename_i hHandled
    refine iff_of_false nofun ?_
    rintro ⟨rfl, hKinds⟩
    rw [hHandled] at hKinds
    cases hKinds
  · rename_i hPassed
    rw [Failure.raised.injEq]
    refine ⟨?_, And.left⟩
    rintro rfl
    exact ⟨rfl, Bool.eq_false_iff.mpr hPassed⟩

theorem leastName?_eq_none_iff {names : List String} : leastName? names = none ↔ names = [] := by
  rw [leastName?, List.head?_eq_none_iff, ← List.length_eq_zero_iff, List.length_mergeSort,
    List.length_eq_zero_iff]

/-- The exceptions that compiling a function passes on, each from a call of the library. -/
inductive Raises (library : Library) (text : String) : Raised → Prop
  | reading {e : Raised} (hCheck : Vocabulary.check text = .ok ())
    (hRead : library text = .error e) (hKinds : e.isAny parsingKinds = false) :
    Raises library text e
  | naming {e : Raised} {parsed : Parsed} (hCheck : Vocabulary.check text = .ok ())
    (hRead : library text = .ok parsed) (hArithmetic : parsed.isArithmetic)
    (hNames : parsed.names = .error e) : Raises library text e
  | settling {e : Raised} {parsed : Parsed} (hCheck : Vocabulary.check text = .ok ())
    (hRead : library text = .ok parsed) (hArithmetic : parsed.isArithmetic)
    (hNames : parsed.names = .ok []) (hSettled : parsed.settled = .error e) : Raises library text e
  | lowering {e : Raised} {parsed : Parsed} (hCheck : Vocabulary.check text = .ok ())
    (hRead : library text = .ok parsed) (hArithmetic : parsed.isArithmetic)
    (hNames : parsed.names = .ok []) (hSettled : parsed.settled = .ok ())
    (hLowered : parsed.evaluator = .error e) (hKinds : e.isAny loweringKinds = false) :
    Raises library text e

theorem parsed_compile_eq_raised_iff {parsed : Parsed} :
    parsed.compile text = .error (.raised e) ↔ parsed.isArithmetic ∧
      (parsed.names = .error e ∨ parsed.names = .ok [] ∧
        (parsed.settled = .error e ∨ parsed.settled = .ok () ∧
          parsed.evaluator = .error e ∧ e.isAny loweringKinds = false)) := by
  rw [Parsed.compile]
  cases parsed.isArithmetic with
  | false => simp [throw, throwThe, MonadExceptOf.throw]
  | true =>
    cases hNames : parsed.names with
    | error cause => simp [Except.mapError]
    | ok names =>
      -- a name left over is a fault, so only an empty list goes on
      cases hLeast : leastName? names with
      | some name =>
        have hNonempty : names ≠ [] := fun hEmpty => by
          rw [leastName?_eq_none_iff.mpr hEmpty] at hLeast
          cases hLeast
        simp [Except.mapError, hLeast, hNonempty, throw, throwThe, MonadExceptOf.throw]
      | none =>
        obtain rfl := leastName?_eq_none_iff.mp hLeast
        cases parsed.settled with
        | error cause => simp [Except.mapError, hLeast]
        | ok _ =>
          cases parsed.evaluator with
          | error cause => simp [Except.mapError, hLeast, ofRaised_eq_raised_iff]
          | ok call => simp [Except.mapError, hLeast, pure, Except.pure]

theorem compile_eq_raised_iff :
    compile library text = .error (.raised e) ↔ Raises library text e := by
  simp only [compile, except_bind_eq_error_iff, mapError_eq_error_iff, mapError_eq_ok_iff,
    parsed_compile_eq_raised_iff, ofRaised_eq_raised_iff]
  constructor
  · rintro (⟨fault, -, ⟨⟩⟩ | ⟨⟨⟩, hCheck, ⟨cause, hRead, rfl, hKinds⟩ | ⟨parsed, hRead, hArithmetic,
      hNames | ⟨hNames, hSettled | ⟨hSettled, hLowered, hKinds⟩⟩⟩⟩)
    · exact .reading hCheck hRead hKinds
    · exact .naming hCheck hRead hArithmetic hNames
    · exact .settling hCheck hRead hArithmetic hNames hSettled
    · exact .lowering hCheck hRead hArithmetic hNames hSettled hLowered hKinds
  · rintro (⟨hCheck, hRead, hKinds⟩ | ⟨hCheck, hRead, hArithmetic, hNames⟩ |
      ⟨hCheck, hRead, hArithmetic, hNames, hSettled⟩ |
      ⟨hCheck, hRead, hArithmetic, hNames, hSettled, hLowered, hKinds⟩)
    · exact .inr ⟨(), hCheck, .inl ⟨_, hRead, rfl, hKinds⟩⟩
    · exact .inr ⟨(), hCheck, .inr ⟨_, hRead, hArithmetic, .inl hNames⟩⟩
    · exact .inr ⟨(), hCheck, .inr ⟨_, hRead, hArithmetic, .inr ⟨hNames, .inl hSettled⟩⟩⟩
    · exact .inr ⟨(), hCheck, .inr ⟨_, hRead, hArithmetic,
        .inr ⟨hNames, .inr ⟨hSettled, hLowered, hKinds⟩⟩⟩⟩

end Expression

namespace Curve

open Grammar (except_bind_eq_error_iff mapError_eq_ok_iff mapError_eq_error_iff)

variable {library : Expression.Library} {function : String} {width : Binary64} {fault : Fault}
  {x count : ℕ} {evaluate : ℕ → Except Fault Binary64}

/-- How drawing a curve fails without a diagnostic. -/
inductive Escapes (library : Expression.Library) (function : String) (width : Binary64) :
    Fault → Prop
  | compiling {e : Raised} (hCompile : Expression.Raises library function e) :
    Escapes library function width (.function (.raised e))
  | sampling {f : Expression.Compiled} {count i : ℕ} {e : Raised}
    (hCompile : Expression.compile library function = .ok f) (hWidth : positions width = .ok count)
    (hLess : i < count) (hBefore : ∀ j < i, ∃ y, f.evaluate (.whole j) = .ok y)
    (hCall : f.call (.whole i) = .error e) (hKinds : e.isAny Expression.callingKinds = false) :
    Escapes library function width (.function (.raised e))
  | infiniteWidth {f : Expression.Compiled} (hCompile : Expression.compile library function = .ok f)
    (hWidth : width = .infinite false) : Escapes library function width .infiniteWidth

/-- The first position whose value cannot be computed ends the evaluation. -/
theorem valuesFrom_eq_error_iff : valuesFrom evaluate x count = .error fault ↔
    ∃ i < count, (∀ j < i, ∃ y, evaluate (x + j) = .ok y) ∧ evaluate (x + i) = .error fault := by
  induction count generalizing x with
  | zero => simp [valuesFrom]
  | succ count ih =>
    rw [valuesFrom, except_bind_eq_error_iff]
    constructor
    · rintro (hFirst | ⟨y, hFirst, hRest⟩)
      · exact ⟨0, Nat.succ_pos count, nofun, hFirst⟩
      · rw [except_bind_eq_error_iff] at hRest
        obtain hRest | ⟨ys, -, hPure⟩ := hRest
        · obtain ⟨i, hLess, hBefore, hStop⟩ := ih.mp hRest
          refine ⟨i + 1, Nat.succ_lt_succ hLess, fun j hJ => ?_, ?_⟩
          · cases j with
            | zero => exact ⟨y, hFirst⟩
            | succ j =>
              rw [← Nat.add_assoc, Nat.add_right_comm]
              exact hBefore j (Nat.lt_of_succ_lt_succ hJ)
          · rw [← Nat.add_assoc, Nat.add_right_comm]
            exact hStop
        · cases hPure
    · rintro ⟨i, hLess, hBefore, hStop⟩
      cases i with
      | zero => exact .inl hStop
      | succ i =>
        obtain ⟨y, hFirst⟩ := hBefore 0 (Nat.succ_pos i)
        refine .inr ⟨y, hFirst, ?_⟩
        rw [except_bind_eq_error_iff]
        refine .inl (ih.mpr ⟨i, Nat.lt_of_succ_lt_succ hLess, fun j hJ => ?_, ?_⟩)
        · rw [Nat.add_right_comm, Nat.add_assoc]
          exact hBefore (j + 1) (Nat.succ_lt_succ hJ)
        · rw [Nat.add_right_comm, Nat.add_assoc]
          exact hStop

theorem values_eq_error_iff : values library function width = .error fault ↔
    (∃ failure, Expression.compile library function = .error failure ∧
        Fault.function failure = fault) ∨
      ∃ f, Expression.compile library function = .ok f ∧ (positions width = .error fault ∨
        ∃ count, positions width = .ok count ∧
          ∃ i < count, (∀ j < i, ∃ y, f.evaluate (.whole j) = .ok y) ∧
            ∃ failure,
              f.evaluate (.whole i) = .error failure ∧ Fault.function failure = fault) := by
  simp only [values, sampled, except_bind_eq_error_iff, mapError_eq_error_iff, mapError_eq_ok_iff,
    valuesFrom_eq_error_iff, Nat.zero_add]

theorem positions_eq_error_iff (hWidth : width.isMagnitude) :
    positions width = .error fault ↔ width = .infinite false ∧ fault = .infiniteWidth := by
  cases width with
  | nan => cases hWidth
  | infinite negative =>
    cases negative with
    | true => cases hWidth
    | false => simp [positions, Binary64.ceil?, eq_comm]
  | finite negative units fits =>
    simp only [positions, Binary64.ceil?, reduceCtorEq, false_and]

theorem evaluate_eq_raised_iff {f : Expression.Compiled} {a : Abscissa} {e : Raised} :
    f.evaluate a = .error (.raised e) ↔
      f.call a = .error e ∧ e.isAny Expression.callingKinds = false := by
  rw [Expression.Compiled.evaluate]
  cases f.call a with
  | ok y => simp
  | error cause => simp [Expression.ofRaised_eq_raised_iff]

theorem diagnostic?_function_eq_none_iff {failure : Expression.Failure} :
    (Failure.drawing (.function failure)).diagnostic? = none ↔ ∃ e, failure = .raised e := by
  cases failure with
  | diagnosed text cause => exact iff_of_false nofun nofun
  | raised e => exact iff_of_true rfl ⟨e, rfl⟩

theorem values_escape_iff (hWidth : width.isMagnitude) :
    values library function width = .error fault ∧ (Failure.drawing fault).diagnostic? = none ↔
      Escapes library function width fault := by
  rw [values_eq_error_iff]
  constructor
  · rintro ⟨⟨failure, hCompile, rfl⟩ | ⟨f, hCompile, hPositions |
      ⟨count, hPositions, i, hLess, hBefore, failure, hStop, rfl⟩⟩, hNone⟩
    · obtain ⟨e, rfl⟩ := diagnostic?_function_eq_none_iff.mp hNone
      exact .compiling (Expression.compile_eq_raised_iff.mp hCompile)
    · obtain ⟨hInfinite, rfl⟩ := (positions_eq_error_iff hWidth).mp hPositions
      exact .infiniteWidth hCompile hInfinite
    · obtain ⟨e, rfl⟩ := diagnostic?_function_eq_none_iff.mp hNone
      obtain ⟨hCall, hKinds⟩ := evaluate_eq_raised_iff.mp hStop
      exact .sampling hCompile hPositions hLess hBefore hCall hKinds
  · rintro (hRaises | ⟨hCompile, hPositions, hLess, hBefore, hCall, hKinds⟩ | ⟨hCompile, rfl⟩)
    · exact ⟨.inl ⟨_, Expression.compile_eq_raised_iff.mpr hRaises, rfl⟩, rfl⟩
    · exact ⟨.inr ⟨_, hCompile, .inr ⟨_, hPositions, _, hLess, hBefore, _,
        evaluate_eq_raised_iff.mpr ⟨hCall, hKinds⟩, rfl⟩⟩, rfl⟩
    · exact ⟨.inr ⟨_, hCompile, .inl rfl⟩, rfl⟩

end Curve

namespace Drawing

variable {library : Expression.Library} {c : Canvas} {options : Options} {width : Binary64}
  {ss : List Shape} {fault : Curve.Fault} {p : Program}

theorem shapes_cons_eq_error_iff {s : Shape} :
    (shapes library c options width (s :: ss)).2 = .error fault ↔
      (shape library c options width s).2 = .error fault ∨
        (∃ e, Draws library c options width s e) ∧
          (shapes library c options width ss).2 = .error fault := by
  rw [shapes]
  rcases hShape : shape library c options width s with ⟨events, e | e⟩
  · simp [Draws, hShape]
  · rcases shapes library c options width ss with ⟨more, es | es⟩ <;>
      simp [Draws, hShape, Except.map]

theorem shapes_eq_error_iff : (shapes library c options width ss).2 = .error fault ↔
    ∃ before s after, ss = before ++ s :: after ∧
      (∀ drawn ∈ before, ∃ e, Draws library c options width drawn e) ∧
      (shape library c options width s).2 = .error fault := by
  induction ss with
  | nil =>
    constructor
    · intro h
      cases h
    · rintro ⟨before, s, after, hNil, -⟩
      simp at hNil
  | cons s ss ih =>
    rw [shapes_cons_eq_error_iff, ih]
    constructor
    · rintro (hFirst | ⟨hDrawn, before, stop, after, rfl, hBefore, hStop⟩)
      · exact ⟨[], s, ss, rfl, List.forall_mem_nil _, hFirst⟩
      · exact ⟨s :: before, stop, after, rfl, List.forall_mem_cons.mpr ⟨hDrawn, hBefore⟩, hStop⟩
    · rintro ⟨before, stop, after, hSplit, hBefore, hStop⟩
      cases before with
      | nil =>
        cases hSplit
        exact .inl hStop
      | cons first before =>
        cases hSplit
        obtain ⟨hDrawn, hBefore⟩ := List.forall_mem_cons.mp hBefore
        exact .inr ⟨hDrawn, before, stop, after, rfl, hBefore, hStop⟩

theorem shape_eq_error_iff {s : Shape} : (shape library c options width s).2 = .error fault ↔
    ∃ function name color thickness, s = .graph function name color thickness ∧
      Curve.values library function width = .error fault := by
  cases s with
  | line | point => simp [shape]
  | graph function name color thickness =>
    rw [shape]
    cases hValues : Curve.values library function width with
    | error cause => simp [hValues]
    | ok values => simp [hValues]

theorem render_eq_error_iff : (render library p options).2 = .error fault ↔
    (shapes library (.ofBox p.root.box options) options p.root.box.width p.shapes).2 =
      .error fault := by
  rw [render, document]
  rcases shapes library (.ofBox p.root.box options) options p.root.box.width p.shapes
    with ⟨events, es | es⟩ <;> simp [Except.map]

end Drawing

namespace Compilation

variable {library : Expression.Library} {source : String} {options : Options} {p : Program}
  {failure : Failure}

theorem program_eq_ok_iff : (program source).2 = .ok p ↔
    ∃ ts, Lexer.tokenize source = .ok ts ∧ Builder.buildChecked ts = .ok p := by
  rw [program, tokens, Lexer.tokenize]
  rcases Lexer.scan source with ⟨final, _ | error⟩
  · rcases hBuild : Builder.buildChecked final.tokens.toList with fault | p <;> simp [hBuild]
  · simp

theorem program_eq_error_iff : (program source).2 = .error failure ↔
    (∃ error, Lexer.tokenize source = .error error ∧ failure = .scanning error) ∨
      ∃ ts fault, Lexer.tokenize source = .ok ts ∧ Builder.buildChecked ts = .error fault ∧
        failure = .building fault := by
  rw [program, tokens, Lexer.tokenize]
  rcases Lexer.scan source with ⟨final, _ | error⟩
  · rcases hBuild : Builder.buildChecked final.tokens.toList with fault | p <;>
      simp [hBuild, eq_comm]
  · simp [eq_comm]

theorem diagnosed_of_program (h : (program source).2 = .error failure) :
    failure.diagnostic? ≠ none := by
  obtain ⟨error, -, rfl⟩ | ⟨ts, fault, hScan, hBuild, rfl⟩ := program_eq_error_iff.mp h
  · exact Option.some_ne_none _
  · exact Grammar.diagnosed_of_buildChecked (Lexer.tokenize_emitted hScan).1 hBuild

theorem not_isEmpty_of_program (h : (program source).2 = .ok p) : source.isEmpty = false := by
  refine Bool.eq_false_iff.mpr fun hEmpty => ?_
  have hNone : (program "").2 = .error (.building (.malformed .missingRoot)) := rfl
  rw [String.isEmpty_iff.mp hEmpty, hNone] at h
  cases h

theorem document_eq_error_iff (hSource : source.isEmpty = false) :
    (document library source options).2 = .error failure ↔ (program source).2 = .error failure ∨
      ∃ p fault, (program source).2 = .ok p ∧ (Drawing.render library p options).2 = .error fault ∧
        failure = .drawing fault := by
  rw [document, hSource]
  rcases program source with ⟨events, failure' | p⟩
  · simp
  · rcases hDrawn : Drawing.render library p options with ⟨more, fault | text⟩ <;>
      simp [draw, hDrawn, Except.mapError, eq_comm]

/-- Drawing fails only at a graph, when all before it has been drawn. -/
theorem document_eq_drawing_iff {fault : Curve.Fault} :
    (document library source options).2 = .error (.drawing fault) ↔
      ∃ p before function name color thickness after, (program source).2 = .ok p ∧
        p.shapes = before ++ .graph function name color thickness :: after ∧
        (∀ s ∈ before, ∃ e,
          Drawing.Draws library (.ofBox p.root.box options) options p.root.box.width s e) ∧
        Curve.values library function p.root.box.width = .error fault := by
  constructor
  · intro hDocument
    cases hSource : source.isEmpty with
    | true =>
      rw [document, hSource] at hDocument
      cases hDocument
    | false =>
      obtain hProgram | ⟨p, cause, hProgram, hRender, hFault⟩ :=
        (document_eq_error_iff hSource).mp hDocument
      · obtain ⟨error, -, hNone⟩ | ⟨ts, cause, -, -, hNone⟩ := program_eq_error_iff.mp hProgram
        · cases hNone
        · cases hNone
      · cases hFault
        obtain ⟨before, s, after, hShapes, hBefore, hShape⟩ :=
          Drawing.shapes_eq_error_iff.mp (Drawing.render_eq_error_iff.mp hRender)
        obtain ⟨function, name, color, thickness, rfl, hValues⟩ :=
          Drawing.shape_eq_error_iff.mp hShape
        exact ⟨p, before, function, name, color, thickness, after, hProgram, hShapes, hBefore,
          hValues⟩
  · rintro ⟨p, before, function, name, color, thickness, after, hProgram, hShapes, hBefore, hValues⟩
    have hShape : (Drawing.shape library (.ofBox p.root.box options) options p.root.box.width
        (.graph function name color thickness)).2 = .error fault :=
      Drawing.shape_eq_error_iff.mpr ⟨function, name, color, thickness, rfl, hValues⟩
    have hRender : (Drawing.render library p options).2 = .error fault :=
      Drawing.render_eq_error_iff.mpr
        (Drawing.shapes_eq_error_iff.mpr ⟨before, _, after, hShapes, hBefore, hShape⟩)
    exact (document_eq_error_iff (not_isEmpty_of_program hProgram)).mpr
      (.inr ⟨p, fault, hProgram, hRender, rfl⟩)

/-- Without a diagnostic a document fails only in drawing a graph. -/
theorem document_escapes_iff :
    (document library source options).2 = .error failure ∧ failure.diagnostic? = none ↔
      ∃ p before function name color thickness after fault, (program source).2 = .ok p ∧
        p.shapes = before ++ .graph function name color thickness :: after ∧
        (∀ s ∈ before, ∃ e,
          Drawing.Draws library (.ofBox p.root.box options) options p.root.box.width s e) ∧
        Curve.Escapes library function p.root.box.width fault ∧ failure = .drawing fault := by
  -- the width has been read from a text without a sign, so only infinity has no count of positions
  have hWidth : ∀ {p}, (program source).2 = .ok p → p.root.box.width.isMagnitude := by
    intro p hProgram
    obtain ⟨ts, hTokens, hBuild⟩ := program_eq_ok_iff.mp hProgram
    have hSound := Grammar.sound_of_tokenize hTokens hBuild
    exact hSound.numbers _ (by simp [Program.numbers, Root.numbers, Box.numbers])
  constructor
  · rintro ⟨hDocument, hNone⟩
    cases failure with
    | scanning error => cases hNone
    | building fault =>
      cases hSource : source.isEmpty with
      | true =>
        rw [document, hSource] at hDocument
        cases hDocument
      | false =>
        obtain hProgram | ⟨p, cause, -, -, hFault⟩ := (document_eq_error_iff hSource).mp hDocument
        · exact absurd hNone (diagnosed_of_program hProgram)
        · cases hFault
    | drawing fault =>
      obtain ⟨p, before, function, name, color, thickness, after, hProgram, hShapes, hBefore,
        hValues⟩ := document_eq_drawing_iff.mp hDocument
      exact ⟨p, before, function, name, color, thickness, after, fault, hProgram, hShapes, hBefore,
        (Curve.values_escape_iff (hWidth hProgram)).mp ⟨hValues, hNone⟩, rfl⟩
  · rintro ⟨p, before, function, name, color, thickness, after, fault, hProgram, hShapes, hBefore,
      hEscapes, rfl⟩
    obtain ⟨hValues, hNone⟩ := (Curve.values_escape_iff (hWidth hProgram)).mpr hEscapes
    exact ⟨document_eq_drawing_iff.mpr ⟨p, before, function, name, color, thickness, after,
      hProgram, hShapes, hBefore, hValues⟩, hNone⟩

end Compilation

namespace Command

open Compilation (document)
open Machine (attempt_bind attempt_lift)

variable {σ Handle : Type} {fs : FileSystem σ Handle} {input : List UInt8}
  {library : Expression.Library} {source : String} {options : Options} {output : Option String}
  {e : Raised}

/-- An exception ends the making of a document or its saving. -/
theorem attempt_compile_eq_raised_iff (verbose : Bool) (s : Machine σ) :
    (s.attempt (Task.perform library (fs.host input) verbose source (.compile output options))).1 =
        .error (.raised e) ↔
      (∃ failure, (document library source options).2 = .error failure ∧
        failure.thrown = .raised e) ∨
      ∃ path text, output = some path ∧ (document library source options).2 = .ok text ∧
        ((Machine.start s.files).attempt (save (fs.host input) path text)).1 = .error e := by
  rw [Task.perform, attempt_settle_bind]
  rcases document library source options with ⟨events, failure | text⟩
  · simp
  · cases output with
    | none =>
      -- printing raises nothing
      refine iff_of_false nofun ?_
      rintro (⟨failure, hFailure, -⟩ | ⟨path, text', hPath, -⟩)
      · cases hFailure
      · cases hPath
    | some path =>
      simp [attempt_save_tell, Grammar.mapError_eq_error_iff, Machine.complained]

theorem attempt_perform_eq_raised_iff (i : Invocation) (files : σ) :
    ((Machine.start files).attempt (({ i with task := .compile output options } :
        Invocation).perform library (fs.host input) source)).1 = .error (.raised e) ↔
      (∃ failure, (document library source options).2 = .error failure ∧
        failure.thrown = .raised e) ∨
      source ≠ "" ∧ ∃ path text, output = some path ∧
        (document library source options).2 = .ok text ∧
        ((Machine.start files).attempt (save (fs.host input) path text)).1 = .error e := by
  rw [Invocation.perform]
  cases hSource : source.isEmpty with
  | true =>
    cases String.isEmpty_iff.mp hSource
    simp [attempt_lift (perform_tell i.verbose [.emptySource] (.start files)), document]
  | false =>
    have hNonempty : source ≠ "" := fun hEmpty => by simp [hEmpty] at hSource
    simp only [Bool.false_eq_true, if_false, attempt_compile_eq_raised_iff, hNonempty, ne_eq,
      not_false_eq_true, true_and]
    rfl

end Command

namespace Compilation

/-- What every source meets: a document, a diagnostic, or a graph that escapes them. A command to
compile it ends with a status unless an exception that is no refusal of the system is raised then or
in saving the document. -/
theorem document_undiagnosed_iff (library : Expression.Library) (source : String)
    (options : Options) :
    (∀ failure, (document library source options).2 = .error failure ∧ failure.diagnostic? = none ↔
      ∃ p before function name color thickness after fault, (program source).2 = .ok p ∧
        p.shapes = before ++ .graph function name color thickness :: after ∧
        (∀ s ∈ before, ∃ e,
          Drawing.Draws library (.ofBox p.root.box options) options p.root.box.width s e) ∧
        Curve.Escapes library function p.root.box.width fault ∧ failure = .drawing fault) ∧
    ∀ {σ Handle : Type} (fs : Command.FileSystem σ Handle) (i : Command.Invocation)
      (output : Option String) (files : σ) (input : List UInt8),
      ((Command.Machine.start files).perform
          (({ i with task := .compile output options } : Command.Invocation).answer library
            (fs.host input) source)).1.IsStatus ↔
        ¬∃ e : Raised, ((∃ failure, (document library source options).2 = .error failure ∧
            failure.thrown = .raised e) ∨
          source ≠ "" ∧ ∃ path text, output = some path ∧
            (document library source options).2 = .ok text ∧
            ((Command.Machine.start files).attempt
              (Command.save (fs.host input) path text)).1 = .error e) ∧
          e.isAny [.system] = false := by
  refine ⟨fun failure => document_escapes_iff, fun fs i output files input => ?_⟩
  rw [Command.perform_answer, Command.isStatus_conclude_iff]
  simp only [Command.attempt_perform_eq_raised_iff]

def nines : List Char := List.replicate 310 '9'

def wideBoxChars : List Char :=
  "#define x max 1 #end #root axes x, x box 0 0 ".toList ++ nines ++
    " 9 #end @graph function \"x\" #end".toList

/-- The width of the box is a number text beyond the doubles. -/
def wideBox : String := String.ofList wideBoxChars

def wideBoxTokens (width : String) : List Token :=
  [⟨1, .define, "define"⟩, ⟨1, .newIdentifier, "x"⟩, ⟨1, .keyword, "max"⟩, ⟨1, .integer, "1"⟩,
    ⟨1, .declaration, "end"⟩, ⟨1, .declaration, "root"⟩, ⟨1, .keyword, "axes"⟩,
    ⟨1, .variable, "x"⟩, ⟨1, .comma, ","⟩, ⟨1, .variable, "x"⟩, ⟨1, .keyword, "box"⟩,
    ⟨1, .integer, "0"⟩, ⟨1, .integer, "0"⟩, ⟨1, .integer, width⟩, ⟨1, .integer, "9"⟩,
    ⟨1, .declaration, "end"⟩, ⟨1, .shapeFunction, "graph"⟩, ⟨1, .keyword, "function"⟩,
    ⟨1, .string, "x"⟩, ⟨1, .declaration, "end"⟩]

theorem scan_ofList (cs : List Char) :
    Lexer.scan (String.ofList cs) = Lexer.run cs.length ⟨cs, 1, #[], #[]⟩ := by
  rw [Lexer.scan, Lexer.State.start, String.toList_ofList]

theorem tokenize_wideBox : Lexer.tokenize wideBox = .ok (wideBoxTokens (String.ofList nines)) := by
  refine Grammar.eq_ok_of_toOption ?_
  rw [wideBox, Lexer.tokenize, scan_ofList]
  decide +kernel

def wideBoxProgram (width : Binary64) : Program :=
  let x : Definition := ⟨"x", none, 0, 1⟩
  ⟨[x], ⟨⟨0, 0, width, 9⟩, defaultStroke, defaultBackground, x, x⟩, none,
    [.graph "x" none none none]⟩

open Builder in
theorem buildChecked_wideBoxTokens {text : String} {width : Binary64}
    (h : Literal.real? text = some width) :
    buildChecked (wideBoxTokens text) = .ok (wideBoxProgram width) := by
  have hCheck : Structure.check (wideBoxTokens text) = .ok () := rfl
  have hZero : Literal.real? "0" = some 0 := by decide +kernel
  have hOne : Literal.real? "1" = some 1 := by decide +kernel
  have hNine : Literal.real? "9" = some 9 := by decide +kernel
  rw [buildChecked, hCheck]
  simp [Except.mapError, bind, Except.bind, build, Outcome.program, collect, wideBoxTokens, walk,
    Cursor.start, beginsBlock, readBlockInto, readDefinition, readRoot, readShape, readBlock,
    readFields, nameAfter, Reader.bind, Reader.pure, Reader.get, definitionFields, rootFields,
    graphFields, box, axes, numerals, numeral, number, string, Reader.ofRead, Cursor.readOne,
    Cursor.readTuple, Cursor.readValues, Token.isEnd, List.lookup_cons, required, lookup, h, hZero,
    hOne, hNine, pure, Token.Kind.numbers, Except.map, wideBoxProgram]

theorem compile_identity : Expression.compile .identity "x" =
    .ok ⟨"x", fun x => .ok (.real x.value)⟩ := by
  have hLeast : Expression.leastName? [] = none := Expression.leastName?_eq_none_iff.mpr rfl
  have hCheck : Expression.Vocabulary.check "x" = .ok () := rfl
  simp [Expression.compile, hCheck, Expression.Library.identity, Expression.Parsed.compile,
    Except.mapError, bind, Except.bind, hLeast, pure, Except.pure]

theorem document_undiagnosed_wideBox :
    (document .identity wideBox {}).2 = .error (.drawing .infiniteWidth) ∧
      (Failure.drawing .infiniteWidth).diagnostic? = none := by
  have hWidth : Literal.real? (String.ofList nines) = some (.infinite false) := by
    have hValue : Literal.Digits.scaled false ⟨nines, []⟩ 0 = .infinite false := by decide +kernel
    rw [Literal.real?_of_readDigits (by decide +kernel)
      (Literal.readDigits_eq_of_digits (by decide +kernel)) (by decide +kernel), hValue]
  have hProgram : (program wideBox).2 = .ok (wideBoxProgram (.infinite false)) :=
    program_eq_ok_iff.mpr ⟨_, tokenize_wideBox, buildChecked_wideBoxTokens hWidth⟩
  exact document_escapes_iff.mpr ⟨_, [], _, _, _, _, [], _, hProgram, rfl,
    List.forall_mem_nil _, .infiniteWidth compile_identity rfl, rfl⟩

end Compilation

end PlotLang
