import Mathlib.Data.String.Basic
import PlotLang.Command

/-! # Commands on a machine

What the parts of a command do on a machine, whatever its system of files is: telling adds to the
errors, printing adds to the output, and saving touches neither.
-/

namespace PlotLang.Command

namespace Machine

variable {σ ε δ α β : Type} {s t : Machine σ}

theorem perform_bind (act : StateM (Machine σ) α) (next : α → StateM (Machine σ) β) :
    s.perform (act >>= next) = (s.perform act).2.perform (next (s.perform act).1) :=
  rfl

theorem attempt_bind (act : ExceptT ε (StateM (Machine σ)) α)
    (next : α → ExceptT ε (StateM (Machine σ)) β) : s.attempt (act >>= next) =
      match s.attempt act with
      | (.ok a, t) => t.attempt (next a)
      | (.error e, t) => (.error e, t) := by
  rw [attempt, attempt, perform, perform, ExceptT.run_bind, StateT.run_bind, Id.run_bind]
  rcases (act.run.run s).run with ⟨a | e, t⟩ <;> rfl

theorem attempt_lift {act : StateM (Machine σ) α} {a : α} (h : s.perform act = (a, t)) :
    s.attempt (ExceptT.lift act : ExceptT ε (StateM (Machine σ)) α) = (.ok a, t) := by
  rw [attempt, ExceptT.run_lift, perform, StateT.run_map, Id.run_map]
  rw [perform] at h
  rw [h]

theorem attempt_raising (act : ExceptT Raised (StateM (Machine σ)) α) :
    s.attempt (raising act) = ((s.attempt act).1.mapError .raised, (s.attempt act).2) :=
  rfl

/-- An action that neither looks at the streams nor changes them. -/
def OnFiles (act : ExceptT ε (StateM (Machine σ)) α) : Prop :=
  ∀ s : Machine σ, s.attempt act =
    (((start s.files).attempt act).1, { s with files := ((start s.files).attempt act).2.files })

theorem OnFiles.bind {act : ExceptT ε (StateM (Machine σ)) α}
    {next : α → ExceptT ε (StateM (Machine σ)) β} (h : OnFiles act)
    (hNext : ∀ a, OnFiles (next a)) : OnFiles (act >>= next) := by
  intro s
  have hStart : (start s.files).attempt act = (((start s.files).attempt act).1,
      start ((start s.files).attempt act).2.files) := h (start s.files)
  rw [attempt_bind, attempt_bind, h s]
  rcases hOutcome : (start s.files).attempt act with ⟨e | a, t⟩
  · rfl
  · rw [hOutcome] at hStart
    have hFiles : t = start t.files := congrArg Prod.snd hStart
    rw [hFiles]
    exact hNext a { s with files := t.files }

end Machine

namespace FileSystem

open Machine (OnFiles)

variable {σ Handle α : Type} {fs : FileSystem σ Handle} {input : List UInt8}

theorem onFiles_asking (question : σ → Except Raised α) : OnFiles (asking question) := fun _ => rfl

theorem onFiles_acting (action : σ → Except Raised α × σ) : OnFiles (acting action) := fun _ => rfl

theorem onFiles_absolute (path : String) : OnFiles ((fs.host input).absolute path) := by
  unfold Host.absolute
  split
  · exact fun _ => rfl
  · exact (onFiles_asking fs.location).bind fun _ _ => rfl

theorem onFiles_save (path text : String) : OnFiles (save (fs.host input) path text) :=
  ((onFiles_absolute path).bind fun p => onFiles_acting (fs.makeDirectories p.dropLast)).bind
    fun _ => (onFiles_acting (fs.create path)).bind fun handle =>
      onFiles_acting (fs.write handle (octets text))

end FileSystem

/-! ## The streams -/

section Streams

open Machine (attempt_bind attempt_lift)

variable {σ Handle α β : Type} {fs : FileSystem σ Handle} {input : List UInt8}

/-- Adding one text after the other to a stream is adding them at once. -/
theorem perform_forM {act : α → StateM (Machine σ) Unit} {text : α → String}
    {add : Machine σ → String → Machine σ} (hNone : ∀ s, add s "" = s)
    (hTwice : ∀ s a b, add (add s a) b = add s (a ++ b))
    (h : ∀ a s, s.perform (act a) = ((), add s (text a))) (as : List α) (s : Machine σ) :
    s.perform (as.forM act) = ((), add s (String.join (as.map text))) := by
  induction as generalizing s with
  | nil =>
    rw [List.map_nil, String.join_nil, hNone]
    rfl
  | cons a as ih =>
    rw [List.forM, Machine.perform_bind, h, ih, hTwice, List.map_cons, String.join_cons]

def logLines (verbose : Bool) (events : List Event) : String :=
  if verbose then String.join (events.map logLine) else ""

theorem complained_empty (s : Machine σ) : s.complained "" = s := by
  rw [Machine.complained, String.append_empty]

theorem printed_empty (s : Machine σ) : s.printed "" = s := by
  rw [Machine.printed, String.append_empty]

theorem perform_tell (verbose : Bool) (events : List Event) (s : Machine σ) :
    s.perform (tell (fs.host input) verbose events) =
      ((), s.complained (logLines verbose events)) := by
  rw [tell, logLines]
  split
  · exact perform_forM complained_empty
      (fun s a b => by simp [Machine.complained, String.append_assoc]) (fun _ _ => rfl) events s
  · rw [complained_empty]
    rfl

theorem perform_printLines (lines : List String) (s : Machine σ) :
    s.perform (printLines (fs.host input) lines) =
      ((), s.printed (String.join (lines.map (· ++ "\n")))) :=
  perform_forM printed_empty (fun s a b => by simp [Machine.printed, String.append_assoc])
    (fun _ _ => rfl) lines s

theorem attempt_settle (verbose : Bool) (r : Compilation.Reported α) (s : Machine σ) :
    s.attempt (settle (fs.host input) verbose r) =
      (r.2.mapError Failure.thrown, s.complained (logLines verbose r.1)) := by
  rw [settle, attempt_bind, attempt_lift (perform_tell verbose r.1 s)]
  rcases r with ⟨events, failure | a⟩ <;> rfl

/-- A value that has been settled is what the rest is done with. -/
theorem attempt_settle_bind (verbose : Bool) (r : Compilation.Reported α)
    (next : α → ExceptT Thrown (StateM (Machine σ)) β) (s : Machine σ) :
    s.attempt (settle (fs.host input) verbose r >>= next) =
      match r.2 with
      | .ok a => (s.complained (logLines verbose r.1)).attempt (next a)
      | .error failure => (.error failure.thrown, s.complained (logLines verbose r.1)) := by
  rw [attempt_bind, attempt_settle]
  cases r.2 <;> rfl

/-- Saving fails as it does before anything has been written to the streams. -/
theorem attempt_save_tell (verbose : Bool) (path text : String) (s : Machine σ) :
    (s.attempt (do
      raising (save (fs.host input) path text)
      ExceptT.lift (tell (fs.host input) verbose [.wrote path]))).1 =
        ((Machine.start s.files).attempt (save (fs.host input) path text)).1.mapError .raised := by
  have hSaves : Machine.OnFiles (save (fs.host input) path text) :=
    FileSystem.onFiles_save path text
  have hSame : (s.attempt (save (fs.host input) path text)).1 =
      ((Machine.start s.files).attempt (save (fs.host input) path text)).1 := by
    rw [hSaves s]
  rw [attempt_bind, Machine.attempt_raising, ← hSame]
  rcases s.attempt (save (fs.host input) path text) with ⟨e | u, t⟩
  · rfl
  · exact congrArg Prod.fst (attempt_lift (perform_tell verbose [.wrote path] t))

end Streams

/-! ## The end of a command -/

section Endings

variable {σ Handle : Type} {fs : FileSystem σ Handle} {input : List UInt8}
  {library : Expression.Library} {arguments : List String} {i : Invocation} {source : String}

/-- The two ways for a command to end that its user is told of. -/
def Ending.IsStatus (e : Ending) : Prop := ∃ status ∈ [0, 2], e = .exit status

theorem isStatus_conclude_iff (outcome : Except Thrown Unit) (s : Machine σ) :
    (s.perform (conclude (fs.host input) outcome)).1.IsStatus ↔
      ¬∃ e, outcome = .error (.raised e) ∧ e.isAny [.system] = false := by
  rcases outcome with (d | e) | u
  · exact iff_of_true ⟨2, by decide, rfl⟩ nofun
  · rw [conclude]
    cases hSystem : e.isAny [.system] with
    | true => exact iff_of_true ⟨2, by decide, rfl⟩ (by simp [hSystem])
    | false => exact iff_of_false (by rintro ⟨status, -, ⟨⟩⟩) (by simp [hSystem])
  · exact iff_of_true ⟨0, by decide, rfl⟩ nofun

theorem perform_answer (s : Machine σ) :
    s.perform (i.answer library (fs.host input) source) =
      (s.attempt (i.perform library (fs.host input) source)).2.perform
        (conclude (fs.host input) (s.attempt (i.perform library (fs.host input) source)).1) :=
  rfl

theorem report_conclude_ok (s : Machine σ) :
    report (s.perform (conclude (fs.host input) (.ok ()))) =
      (s.files, ⟨s.output, s.errors, .exit 0⟩) :=
  rfl

theorem report_conclude_diagnosed (d : Diagnostic) (s : Machine σ) :
    report (s.perform (conclude (fs.host input) (.error (.diagnosed d)))) =
      (s.files, ⟨s.output, s.errors ++ ("[ERROR]: " ++ d.text ++ "\n"), .exit 2⟩) :=
  rfl

theorem complained_start (files : σ) (text : String) :
    (Machine.start files).complained text = ⟨files, "", text⟩ := by
  rw [Machine.complained, Machine.start, String.empty_append]

theorem attempt_ofExcept {ε α : Type} (r : Except ε α) (s : Machine σ) :
    s.attempt (ofExcept r : ExceptT ε (StateM (Machine σ)) α) = (r, s) := by
  cases r <;> rfl

theorem attempt_read_file (path : String) (s : Machine σ) :
    s.attempt ((Source.file path).read (fs.host input)) =
      ((fs.read s.files path).bind textOf, s) := by
  have hRead : s.attempt ((fs.host input).readFile path) = (fs.read s.files path, s) := rfl
  rw [Source.read, Machine.attempt_bind, hRead]
  cases fs.read s.files path with
  | error e => rfl
  | ok bytes => exact attempt_ofExcept (textOf bytes) s

/-- Reading a source leaves the machine as it is. -/
theorem attempt_read (origin : Source) (s : Machine σ) :
    (s.attempt (origin.read (fs.host input))).2 = s := by
  cases origin with
  | inline text => rfl
  | standardInput => exact congrArg Prod.snd (attempt_ofExcept (textOf input) s)
  | file path => rw [attempt_read_file]

theorem unifyBreaks_eq {cs : List Char} (h : '\r' ∉ cs) : unifyBreaks cs = cs := by
  fun_induction unifyBreaks cs with
  | case1 cs ih => simp at h
  | case2 cs hNot ih => simp at h
  | case3 c cs hNot hNot' ih => rw [ih fun hMem => h (List.mem_cons_of_mem c hMem)]
  | case4 => rfl

theorem textOf_octets {text : String} (hAscii : ∀ c ∈ text.toList, c.toNat < 128)
    (hBreaks : '\r' ∉ text.toList) : textOf (octets text) = .ok text := by
  rw [textOf, octets, Text.Utf8.decode, Text.Utf8.decodeFrom_encode hAscii]
  dsimp only
  rw [unifyBreaks_eq hBreaks, String.ofList_toList]

theorem run_eq_answer {files : σ} (hArguments : read arguments = .ok i)
    (hSource : ((Machine.start files).attempt (i.source.read (fs.host input))).1 = .ok source) :
    run library fs arguments files input =
      report ((Machine.start files).perform (i.answer library (fs.host input) source)) := by
  have hRead : (Machine.start files).perform (i.source.read (fs.host input)).run =
      (.ok source, .start files) := Prod.ext hSource (attempt_read i.source _)
  rw [run, program, hArguments]
  simp only [Invocation.respond, Machine.perform_bind, hRead]

end Endings

end PlotLang.Command
