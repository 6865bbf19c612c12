import PlotLang.Command.FileTree
import PlotLang.Proofs.Failures

/-! # Failed commands leave no trace

A source fails in the scan, in the building of its program or, for a document, in a function or a
sample of the first graph that cannot be drawn, after the shapes before it. A command meets each of
these before its effect takes place: it prints nothing and leaves the files as they were. So does a
command on an empty source.
-/

namespace PlotLang

/-! ## The failing stage -/

namespace Expression

open Grammar (except_bind_eq_ok_iff except_bind_eq_error_iff mapError_eq_error_iff)

variable {library : Library} {function text : String} {f : Compiled} {cause : Fault}

theorem text_of_ofRaised {kinds : List Raised.Kind} {fault : String → Fault} {e : Raised}
    (h : Failure.ofRaised kinds function fault e = .diagnosed text cause) : text = function := by
  rw [Failure.ofRaised] at h
  split at h <;> cases h
  rfl

theorem text_of_parsed {parsed : Parsed}
    (h : parsed.compile function = .error (.diagnosed text cause)) : text = function := by
  rw [Parsed.compile] at h
  split at h
  · simp only [except_bind_eq_error_iff, mapError_eq_error_iff] at h
    obtain ⟨e, -, ⟨⟩⟩ | ⟨names, -, hRest⟩ := h
    split at hRest
    · cases hRest
      rfl
    · simp only [except_bind_eq_error_iff, mapError_eq_error_iff] at hRest
      obtain ⟨e, -, ⟨⟩⟩ | ⟨⟨⟩, -, ⟨e, -, hFault⟩ | ⟨call, -, ⟨⟩⟩⟩ := hRest
      exact text_of_ofRaised hFault
  · cases h
    rfl

theorem text_of_diagnosed (h : compile library function = .error (.diagnosed text cause)) :
    text = function := by
  simp only [compile, except_bind_eq_error_iff, mapError_eq_error_iff] at h
  obtain ⟨fault, -, hFault⟩ | ⟨⟨⟩, -, ⟨e, -, hFault⟩ | ⟨parsed, -, hParsed⟩⟩ := h
  · cases hFault
    rfl
  · exact text_of_ofRaised hFault
  · exact text_of_parsed hParsed

theorem text_of_compile (h : compile library function = .ok f) : f.text = function := by
  simp only [compile, except_bind_eq_ok_iff] at h
  obtain ⟨⟨⟩, -, parsed, -, hParsed⟩ := h
  rw [Parsed.compile] at hParsed
  split at hParsed
  · simp only [except_bind_eq_ok_iff] at hParsed
    obtain ⟨names, -, hRest⟩ := hParsed
    split at hRest
    · cases hRest
    · simp only [except_bind_eq_ok_iff] at hRest
      obtain ⟨⟨⟩, -, call, -, hPure⟩ := hRest
      cases hPure
      rfl
  · cases hParsed

theorem text_of_evaluate {x : Abscissa} (h : f.evaluate x = .error (.diagnosed text cause)) :
    text = f.text := by
  rw [Compiled.evaluate] at h
  split at h
  · cases h
  · exact text_of_ofRaised (Except.error.inj h)

end Expression

namespace Curve

variable {library : Expression.Library} {function : String} {width : Binary64} {fault : Fault}

/-- How a function fails to be drawn with a diagnostic. -/
inductive Refuses (library : Expression.Library) (function : String) (width : Binary64) :
    Diagnostic → Prop
  | compiling {cause : Expression.Fault}
    (hCompile : Expression.compile library function = .error (.diagnosed function cause)) :
    Refuses library function width (cause.diagnostic function)
  | sampling {f : Expression.Compiled} {count i : ℕ} {cause : Expression.Fault}
    (hCompile : Expression.compile library function = .ok f)
    (hWidth : positions width = .ok count) (hLess : i < count)
    (hBefore : ∀ j < i, ∃ y, f.evaluate (.whole j) = .ok y)
    (hStop : f.evaluate (.whole i) = .error (.diagnosed function cause)) :
    Refuses library function width (cause.diagnostic function)

theorem positions_undiagnosed (h : positions width = .error fault) :
    (Failure.drawing fault).diagnostic? = none := by
  unfold positions at h
  split at h
  · cases h
  · split at h <;> cases h <;> rfl

theorem refuses_iff {d : Diagnostic} : Refuses library function width d ↔
    ∃ fault, values library function width = .error fault ∧
      (Failure.drawing fault).diagnostic? = some d := by
  constructor
  · rintro (hCompile | ⟨hCompile, hWidth, hLess, hBefore, hStop⟩)
    · exact ⟨_, values_eq_error_iff.mpr (.inl ⟨_, hCompile, rfl⟩), rfl⟩
    · exact ⟨_, values_eq_error_iff.mpr (.inr ⟨_, hCompile, .inr ⟨_, hWidth, _, hLess, hBefore, _,
        hStop, rfl⟩⟩), rfl⟩
  · rintro ⟨fault, hValues, hSome⟩
    obtain ⟨failure, hCompile, rfl⟩ | ⟨f, hCompile, hWidth | ⟨count, hWidth, i, hLess, hBefore,
      failure, hStop, rfl⟩⟩ := values_eq_error_iff.mp hValues
    · cases failure with
      | raised e => cases hSome
      | diagnosed text cause =>
        cases Expression.text_of_diagnosed hCompile
        cases hSome
        exact .compiling hCompile
    · rw [positions_undiagnosed hWidth] at hSome
      cases hSome
    · cases failure with
      | raised e => cases hSome
      | diagnosed text cause =>
        cases (Expression.text_of_evaluate hStop).trans (Expression.text_of_compile hCompile)
        cases hSome
        exact .sampling hCompile hWidth hLess hBefore hStop

end Curve

namespace Compilation

/-- What a source fails with in its stages, for a task that goes through them: a listing is of
tokens, a summary of the program, and only a document is drawn. -/
inductive Fails (library : Expression.Library) (source : String) : Command.Task → Diagnostic → Prop
  | scanning {task : Command.Task} {error : Lexer.Error}
    (hScan : Lexer.tokenize source = .error error) : Fails library source task error.diagnostic
  | building {task : Command.Task} {ts : List Token} {fault : Builder.Fault}
    (hTask : task ≠ .tokens)
    (hScan : Lexer.tokenize source = .ok ts) (hBuild : Builder.buildChecked ts = .error fault) :
    Fails library source task fault.diagnostic
  | drawing {output : Option String} {options : Options} {p : Program} {before after : List Shape}
    {function : String} {name color : Option String} {thickness : Option Binary64}
    {d : Diagnostic} (hProgram : (program source).2 = .ok p)
    (hShapes : p.shapes = before ++ .graph function name color thickness :: after)
    (hBefore : ∀ s ∈ before, ∃ e,
      Drawing.Draws library (.ofBox p.root.box options) options p.root.box.width s e)
    (hRefuses : Curve.Refuses library function p.root.box.width d) :
    Fails library source (.compile output options) d

/-- What is reported of a result, without the result. -/
def reports {α : Type} (r : Reported α) : Reported Unit := (r.1, r.2.map fun _ => ())

end Compilation

/-- What a task works out from a source before it prints or saves anything. -/
def Command.Task.computed (library : Expression.Library) (source : String) :
    Command.Task → Compilation.Reported Unit
  | .compile _ options => Compilation.reports (Compilation.document library source options)
  | .check => Compilation.reports (Compilation.program source)
  | .tokens => Compilation.reports (Compilation.tokens source)

namespace Compilation

variable {library : Expression.Library} {source : String} {p : Program} {failure : Failure}
  {d : Diagnostic} {options : Options} {task : Command.Task}

theorem reports_eq_error_iff {α : Type} {r : Reported α} :
    (reports r).2 = .error failure ↔ r.2 = .error failure := by
  rcases r with ⟨events, cause | a⟩ <;> simp [reports, Except.map]

theorem diagnostic?_eq_some_iff : failure.diagnostic? = some d ↔ failure.thrown = .diagnosed d := by
  rw [Failure.diagnostic?]
  cases failure.thrown <;> simp

theorem tokens_eq_error_iff : (tokens source).2 = .error failure ↔
    ∃ error, Lexer.tokenize source = .error error ∧ failure = .scanning error := by
  rw [tokens, Lexer.tokenize]
  rcases Lexer.scan source with ⟨final, _ | error⟩ <;> simp [eq_comm]

/-- Every fault of a scanned source has a diagnostic. -/
theorem fails_of_program (hTask : task ≠ .tokens) (h : (program source).2 = .error failure)
    (hSome : failure.diagnostic? = some d) : Fails library source task d := by
  obtain ⟨error, hScan, rfl⟩ | ⟨ts, fault, hScan, hBuild, rfl⟩ := program_eq_error_iff.mp h
  · cases hSome
    exact .scanning hScan
  · cases fault <;> cases hSome <;> exact .building hTask hScan hBuild

theorem diagnostic?_of_buildChecked {ts : List Token} {fault : Builder.Fault}
    (hScan : Lexer.tokenize source = .ok ts) (hBuild : Builder.buildChecked ts = .error fault) :
    (Failure.building fault).diagnostic? = some fault.diagnostic := by
  have hSome := Grammar.diagnosed_of_buildChecked (Lexer.tokenize_emitted hScan).1 hBuild
  cases fault with
  | unreadableNumber text => exact absurd rfl hSome
  | _ => rfl

/-- A task meets exactly the failures of its stages. -/
theorem fails_iff (hSource : source.isEmpty = false) : Fails library source task d ↔
    ∃ failure, (task.computed library source).2 = .error failure ∧
      failure.diagnostic? = some d := by
  have hProgram : ∀ failure, (program source).2 = .error failure → task ≠ .tokens →
      (task.computed library source).2 = .error failure := by
    intro failure hError hTask
    cases task with
    | compile output options =>
      exact reports_eq_error_iff.mpr ((document_eq_error_iff hSource).mpr (.inl hError))
    | check => exact reports_eq_error_iff.mpr hError
    | tokens => exact absurd rfl hTask
  constructor
  · intro h
    cases h with
    | @scanning _ error hScan =>
      refine ⟨.scanning error, ?_, rfl⟩
      by_cases hTask : task = .tokens
      · subst hTask
        exact reports_eq_error_iff.mpr (tokens_eq_error_iff.mpr ⟨error, hScan, rfl⟩)
      · exact hProgram _ (program_eq_error_iff.mpr (.inl ⟨error, hScan, rfl⟩)) hTask
    | @building _ ts fault hTask hScan hBuild =>
      exact ⟨.building fault, hProgram _ (program_eq_error_iff.mpr
        (.inr ⟨ts, fault, hScan, hBuild, rfl⟩)) hTask, diagnostic?_of_buildChecked hScan hBuild⟩
    | drawing hBuilt hShapes hBefore hRefuses =>
      obtain ⟨fault, hValues, hSome⟩ := Curve.refuses_iff.mp hRefuses
      exact ⟨.drawing fault, reports_eq_error_iff.mpr (document_eq_drawing_iff.mpr
        ⟨_, _, _, _, _, _, _, hBuilt, hShapes, hBefore, hValues⟩), hSome⟩
  · rintro ⟨failure, hResult, hSome⟩
    cases task with
    | tokens =>
      obtain ⟨error, hScan, rfl⟩ := tokens_eq_error_iff.mp (reports_eq_error_iff.mp hResult)
      cases hSome
      exact .scanning hScan
    | check => exact fails_of_program nofun (reports_eq_error_iff.mp hResult) hSome
    | compile output options =>
      have hDocument := reports_eq_error_iff.mp hResult
      obtain hError | ⟨p, fault, hBuilt, hRender, rfl⟩ :=
        (document_eq_error_iff hSource).mp hDocument
      · exact fails_of_program nofun hError hSome
      · obtain ⟨q, before, function, name, color, thickness, after, hBuilt, hShapes, hBefore,
          hValues⟩ := document_eq_drawing_iff.mp hDocument
        exact .drawing hBuilt hShapes hBefore (Curve.refuses_iff.mpr ⟨fault, hValues, hSome⟩)

end Compilation

namespace Command

open Compilation (Fails fails_iff)
open Machine (attempt_bind attempt_lift)

variable {σ Handle : Type} {fs : FileSystem σ Handle} {i : Invocation} {arguments : List String}
  {files : σ} {input : List UInt8} {library : Expression.Library} {source : String}
  {failure : Failure} {d : Diagnostic} {task : Task}

/-- A task settles what it works out, and does the rest with the value. Printing and saving end in no
diagnostic. -/
theorem exists_settle (library : Expression.Library) (fs : FileSystem σ Handle)
    (input : List UInt8) (task : Task) (verbose : Bool) (source : String) :
    ∃ (α : Type) (r : Compilation.Reported α)
      (rest : α → ExceptT Thrown (StateM (Machine σ)) Unit),
      task.perform library (fs.host input) verbose source =
        settle (fs.host input) verbose r >>= rest ∧
      Compilation.reports r = task.computed library source ∧
      ∀ a (s : Machine σ) d, (s.attempt (rest a)).1 ≠ .error (.diagnosed d) := by
  cases task with
  | compile output options =>
    refine ⟨_, _, _, rfl, rfl, fun text s d => ?_⟩
    cases output with
    | none => exact nofun
    | some path =>
      rw [attempt_bind, Machine.attempt_raising]
      rcases s.attempt (save (fs.host input) path text) with ⟨e | u, t⟩ <;> exact nofun
  | check =>
    refine ⟨_, _, _, rfl, rfl, fun p s d => ?_⟩
    rw [attempt_lift (perform_printLines _ _)]
    exact nofun
  | tokens =>
    refine ⟨_, _, _, rfl, rfl, fun ts s d => ?_⟩
    rw [attempt_lift (perform_printLines _ _)]
    exact nofun

/-- What fails before the first effect leaves all effects undone. -/
theorem attempt_perform_of_failure (verbose : Bool) (s : Machine σ)
    (h : (task.computed library source).2 = .error failure) :
    s.attempt (task.perform library (fs.host input) verbose source) =
      (.error failure.thrown,
        s.complained (logLines verbose (task.computed library source).1)) := by
  obtain ⟨α, r, rest, hPerform, hComputed, -⟩ :=
    exists_settle library fs input task verbose source
  rw [← hComputed] at h
  rw [hPerform, attempt_settle_bind, Compilation.reports_eq_error_iff.mp h, ← hComputed]
  rfl

/-- Only what is computed ends a task with a diagnostic. -/
theorem exists_failure_of_attempt {verbose : Bool} {s : Machine σ}
    (h : (s.attempt (task.perform library (fs.host input) verbose source)).1 =
      .error (.diagnosed d)) :
    ∃ failure, (task.computed library source).2 = .error failure ∧
      failure.diagnostic? = some d := by
  obtain ⟨α, r, rest, hPerform, hComputed, hRest⟩ :=
    exists_settle library fs input task verbose source
  rw [hPerform, attempt_settle_bind] at h
  rw [← hComputed]
  cases hResult : r.2 with
  | error failure =>
    rw [hResult] at h
    exact ⟨failure, Compilation.reports_eq_error_iff.mpr hResult,
      Compilation.diagnostic?_eq_some_iff.mpr (Except.error.inj h)⟩
  | ok a =>
    rw [hResult] at h
    exact absurd h (hRest a _ d)

/-- A command on an empty source does nothing. On any other, the diagnostics it can end with are
those of its stages, and each leaves the files as they were and the output empty, whatever the
system of files is and wherever the command was to save its result. -/
theorem failed_run_leaves_no_trace (library : Expression.Library) (fs : FileSystem σ Handle)
    (hArguments : read arguments = .ok i)
    (hSource : ((Machine.start files).attempt (i.source.read (fs.host input))).1 = .ok source) :
    (source = "" → run library fs arguments files input =
      (files, ⟨"", logLines i.verbose [.emptySource], .exit 0⟩)) ∧
    (source ≠ "" → ∀ d,
      (Fails library source i.task d ↔ ((Machine.start files).attempt
        (i.task.perform library (fs.host input) i.verbose source)).1 = .error (.diagnosed d)) ∧
      (Fails library source i.task d → run library fs arguments files input =
        (files, ⟨"", logLines i.verbose (i.task.computed library source).1 ++
          ("[ERROR]: " ++ d.text ++ "\n"), .exit 2⟩))) := by
  rw [run_eq_answer hArguments hSource, perform_answer]
  refine ⟨?_, fun hNonempty d => ?_⟩
  · rintro rfl
    have hPerform : i.perform library (fs.host input) "" =
        ExceptT.lift (tell (fs.host input) i.verbose [.emptySource]) := rfl
    rw [hPerform, attempt_lift (perform_tell i.verbose [.emptySource] (.start files)),
      report_conclude_ok, complained_start]
  · have hSome : source.isEmpty = false :=
      Bool.eq_false_iff.mpr fun hEmpty => hNonempty (String.isEmpty_iff.mp hEmpty)
    have hPerform : i.perform library (fs.host input) source =
        i.task.perform library (fs.host input) i.verbose source := by
      rw [Invocation.perform, hSome]
      rfl
    have hEnds : Fails library source i.task d → (Machine.start files).attempt
        (i.task.perform library (fs.host input) i.verbose source) = (.error (.diagnosed d),
          ⟨files, "", logLines i.verbose (i.task.computed library source).1⟩) := by
      intro hFails
      obtain ⟨failure, hComputed, hDiagnostic⟩ := (fails_iff hSome).mp hFails
      rw [attempt_perform_of_failure i.verbose (.start files) hComputed, complained_start,
        Compilation.diagnostic?_eq_some_iff.mp hDiagnostic]
    rw [hPerform]
    refine ⟨⟨fun hFails => by rw [hEnds hFails], fun hAttempt =>
      (fails_iff hSome).mpr (exists_failure_of_attempt hAttempt)⟩, fun hFails => ?_⟩
    rw [hEnds hFails, report_conclude_diagnosed]

/-- The first graph is drawn, without a position, and the second has an unknown variable. -/
def twoGraphs : String :=
  "#define x max 1 #end #root axes x, x box 0 0 0 9 #end " ++
    "@graph function \"x\" #end @graph function \"y\" #end"

def twoGraphsTokens : List Token :=
  [⟨1, .define, "define"⟩, ⟨1, .newIdentifier, "x"⟩, ⟨1, .keyword, "max"⟩, ⟨1, .integer, "1"⟩,
    ⟨1, .declaration, "end"⟩, ⟨1, .declaration, "root"⟩, ⟨1, .keyword, "axes"⟩,
    ⟨1, .variable, "x"⟩, ⟨1, .comma, ","⟩, ⟨1, .variable, "x"⟩, ⟨1, .keyword, "box"⟩,
    ⟨1, .integer, "0"⟩, ⟨1, .integer, "0"⟩, ⟨1, .integer, "0"⟩, ⟨1, .integer, "9"⟩,
    ⟨1, .declaration, "end"⟩, ⟨1, .shapeFunction, "graph"⟩, ⟨1, .keyword, "function"⟩,
    ⟨1, .string, "x"⟩, ⟨1, .declaration, "end"⟩, ⟨1, .shapeFunction, "graph"⟩,
    ⟨1, .keyword, "function"⟩, ⟨1, .string, "y"⟩, ⟨1, .declaration, "end"⟩]

theorem compile_unknownVariable (library : Expression.Library) :
    Expression.compile library "y" = .error (.diagnosed "y" (.unknownName false "y")) :=
  rfl

theorem draws_without_positions {c : Drawing.Canvas} {options : Options} :
    ∃ e, Drawing.Draws .identity c options 0 (.graph "x" none none none) e := by
  have hCount : Curve.positions 0 = .ok 0 := Grammar.eq_ok_of_toOption (by decide +kernel)
  have hValues : Curve.values .identity "x" 0 = .ok [] := by
    rw [Curve.values, Compilation.compile_identity]
    simp [Except.mapError, Curve.sampled, hCount, Curve.valuesFrom, bind, Except.bind]
  exact ⟨_, by rw [Drawing.Draws, Drawing.shape, hValues]⟩

theorem fails_twoGraphs (output : Option String) : Fails .identity twoGraphs (.compile output {})
    ((Expression.Fault.unknownName false "y").diagnostic "y") := by
  have hTokens : Lexer.tokenize twoGraphs = .ok twoGraphsTokens := by cbv
  have hParts : (Builder.buildChecked twoGraphsTokens).toOption.map
      (fun p => (p.root.box, p.shapes)) = some (⟨0, 0, 0, 9⟩,
        [.graph "x" none none none, .graph "y" none none none]) := by
    decide +kernel
  obtain ⟨p, hBuild, hParts⟩ := Grammar.exists_ok_of_toOption hParts
  obtain ⟨hBox, hShapes⟩ := Prod.mk.inj hParts
  have hProgram : (Compilation.program twoGraphs).2 = .ok p :=
    Compilation.program_eq_ok_iff.mpr ⟨_, hTokens, hBuild⟩
  have hBefore : ∀ s ∈ [Shape.graph "x" none none none], ∃ e,
      Drawing.Draws .identity (.ofBox p.root.box {}) {} p.root.box.width s e := by
    rw [hBox]
    exact List.forall_mem_singleton.mpr draws_without_positions
  exact .drawing hProgram hShapes hBefore (.compiling (compile_unknownVariable .identity))

/-- The source is read from a directory above the working one. -/
def twoGraphsAbove : FileTree := ⟨["w"], [], [(["p.g"], octets twoGraphs)]⟩

theorem read_above (content : List UInt8) :
    FileTree.read ⟨["w"], [], [(["p.g"], content)]⟩ "../p.g" = .ok content := by
  have hGiven : Path.wellFormed "../p.g" ∧ FileTree.given "../p.g" = .ok () := by decide +kernel
  have hNames : Path.isAbsolute "../p.g" = false ∧ Path.names "../p.g" = ["..", "p.g"] := by
    decide +kernel
  have hSizes : "..".utf8ByteSize = 2 ∧ "p.g".utf8ByteSize = 3 := by decide +kernel
  simp [FileTree.read, FileTree.content, FileTree.start, hGiven, hNames, FileTree.walk,
    FileTree.node?, FileTree.nameLimit, hSizes, Path.step, bind, Except.bind, Except.mapError]

theorem read_twoGraphsAbove : ((Machine.start twoGraphsAbove).attempt
    ((Source.file "../p.g").read (FileTree.system.host []))).1 = .ok twoGraphs := by
  have hPlain : twoGraphs.toList.all fun c => c.toNat < 128 && c != '\r' := by decide +kernel
  simp only [List.all_eq_true, Bool.and_eq_true, decide_eq_true_eq, bne_iff_ne] at hPlain
  rw [attempt_read_file]
  exact (congrArg (·.bind textOf) (read_above (octets twoGraphs))).trans
    (textOf_octets (fun c hMem => (hPlain c hMem).1) fun hMem => (hPlain _ hMem).2 rfl)

/-- Neither the directory nor the file that the drawing was to be saved in is made. -/
theorem failed_run_leaves_no_trace_twoGraphs : ∃ i,
    read ["compile", "../p.g", "-o", "/srv/n/o.svg"] = .ok i ∧
      ((Machine.start twoGraphsAbove).attempt
        (i.source.read (FileTree.system.host []))).1 = .ok twoGraphs ∧
      Fails .identity twoGraphs i.task ((Expression.Fault.unknownName false "y").diagnostic "y") ∧
      ∃ errors, run .identity FileTree.system ["compile", "../p.g", "-o", "/srv/n/o.svg"]
        twoGraphsAbove [] = (twoGraphsAbove, ⟨"", errors, .exit 2⟩) := by
  have hArguments : read ["compile", "../p.g", "-o", "/srv/n/o.svg"] =
      .ok ⟨false, .file "../p.g", .compile (some "/srv/n/o.svg") {}⟩ := by
    cbv
  have hFails := fails_twoGraphs (some "/srv/n/o.svg")
  obtain ⟨-, hRun⟩ := failed_run_leaves_no_trace .identity FileTree.system hArguments
    read_twoGraphsAbove
  exact ⟨_, hArguments, read_twoGraphsAbove, hFails, _, (hRun (by decide) _).2 hFails⟩

end Command

end PlotLang
