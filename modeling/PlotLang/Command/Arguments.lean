import PlotLang.Command.Usage
import PlotLang.Number.Literal
import PlotLang.Text.Digit

/-! # Reading an argument list

Each argument is judged by itself first: it is plain, or it begins with a dash and names switches.
A long switch may be cut short as long as only one fits, and takes its value after an equals sign or
from the next argument. Short switches are one letter each and may be joined; the value of one
follows at once, after an equals sign or as the next argument. After two dashes everything is plain.
Then the arguments are taken from left to right: switches before the command, the command, its
switches and one path. What is left over is refused last of all.
-/

namespace PlotLang.Command

open Text

/-- A value in the same argument as its switch. -/
structure Attached where
  afterEquals : Bool
  text : List Char
  deriving DecidableEq, Repr

inductive Mark where
  | plain
  | separator
  | unknown
  | switch (s : Switch) (short : Bool) (attached : Option Attached)
  deriving DecidableEq, Repr

namespace Mark

/-- A number below zero is no switch; a line feed may end it. -/
def isNegativeNumber : List Char → Bool
  | '-' :: cs =>
    let body := if cs.getLast? = some '\n' then cs.dropLast else cs
    match body.dropWhile isDecimalDigit with
    | [] => !body.isEmpty
    | '.' :: fraction => !fraction.isEmpty && fraction.all isDecimalDigit
    | _ => false
  | _ => false

def spelled? (known : List Switch) (cs : List Char) : Option Switch :=
  known.find? fun s => s.spellings.any (·.toList == cs)

def isShort (cs : List Char) : Bool := cs.drop 1 |>.head? |> (· != some '-')

def splitValue (cs : List Char) : List Char × Option Attached :=
  let head := cs.takeWhile (· ≠ '=')
  match cs.dropWhile (· ≠ '=') with
  | _ :: value => (head, some ⟨true, value⟩)
  | [] => (head, none)

/-- The long spellings that a text begins, each with its switch. -/
def completions (known : List Switch) (cs : List Char) : List (String × Switch) :=
  known.flatMap fun s =>
    (s.spellings.filter fun spelling => cs.isPrefixOf spelling.toList).map (·, s)

/-- The mark of an argument that begins with a dash and names no known switch. -/
def other (cs : List Char) : Mark :=
  if isNegativeNumber cs || cs.contains ' ' then .plain else .unknown

def classify (known : List Switch) (cs : List Char) : Except Problem Mark :=
  if cs.head? ≠ some '-' || cs.length = 1 then .ok .plain
  else
    let (head, value) := splitValue cs
    match spelled? known cs, spelled? known head with
    | some s, _ => .ok (.switch s (isShort cs) none)
    | none, some s => .ok (.switch s (isShort head) value)
    | none, none =>
      if isShort cs then
        match spelled? known (cs.take 2) with
        | some s => .ok (.switch s true (some ⟨false, cs.drop 2⟩))
        | none => .ok (other cs)
      else
        match completions known head with
        | [] => .ok (other cs)
        | [(_, s)] => .ok (.switch s false value)
        | several => .error (.ambiguous (String.ofList cs) (several.map (·.1)))

def all (known : List Switch) : List String → Except Problem (List (String × Mark))
  | [] => .ok []
  | argument :: rest =>
    if argument = "--" then .ok ((argument, .separator) :: rest.map (·, .plain))
    else do
      let mark ← classify known argument.toList
      let marks ← all known rest
      return (argument, mark) :: marks

end Mark

/-- A switch as it was given, with an empty value if it takes none. -/
structure Setting where
  switch : Switch
  value : String
  deriving DecidableEq, Repr

inductive Tail where
  | nothing
  | unknown (text : String)
  | valued (s : Switch) (value : String)
  | owing (s : Switch)
  deriving DecidableEq, Repr

/-- Reads the letters joined to a short switch that takes no value. -/
def letters (known : List Switch) (s : Switch) (afterEquals : Bool) :
    List Char → Except Problem (List Switch × Tail)
  | [] => .error (.unusedValue s "")
  | c :: rest =>
    if afterEquals || c = '-' then .error (.unusedValue s (String.ofList (c :: rest)))
    else
      match Mark.spelled? known ['-', c], rest with
      | none, _ => .ok ([s], .unknown (String.ofList ('-' :: c :: rest)))
      | some next, [] => .ok (if next.takesValue then ([s], .owing next) else ([s, next], .nothing))
      | some next, '=' :: value =>
        if next.takesValue then .ok ([s], .valued next (String.ofList value))
        else (letters known next true value).map fun (flags, tail) => (s :: flags, tail)
      | some next, c' :: more =>
        if next.takesValue then .ok ([s], .valued next (String.ofList (c' :: more)))
        else (letters known next false (c' :: more)).map fun (flags, tail) => (s :: flags, tail)

def unfold (known : List Switch) (s : Switch) (short : Bool) :
    Option Attached → Except Problem (List Switch × Tail)
  | none => .ok (if s.takesValue then ([], .owing s) else ([s], .nothing))
  | some attached =>
    if s.takesValue then .ok ([], .valued s (String.ofList attached.text))
    else if short then letters known s attached.afterEquals attached.text
    else .error (.unusedValue s (String.ofList attached.text))

/-- What one argument with switches comes to, and the arguments after it that it does not use. -/
structure Taken where
  settings : List Setting
  leftover : List String
  rest : List (String × Mark)

def take (known : List Switch) (s : Switch) (short : Bool) (attached : Option Attached)
    (rest : List (String × Mark)) : Except Problem Taken := do
  let (flags, tail) ← unfold known s short attached
  let settings := flags.map fun flag => Setting.mk flag ""
  match tail, rest with
  | .nothing, _ => return ⟨settings, [], rest⟩
  | .unknown text, _ => return ⟨settings, [text], rest⟩
  | .valued s value, _ => return ⟨settings ++ [⟨s, value⟩], [], rest⟩
  | .owing s, (value, .plain) :: rest => return ⟨settings ++ [⟨s, value⟩], [], rest⟩
  | .owing s, _ => throw (.missingValue s)

inductive Stop where
  | help
  | fault (usage : Usage)
  deriving DecidableEq, Repr

/-- A problem among the arguments of a command ends the reading of them. -/
def located {α : Type} (command : Option Command) (result : Except Problem α) : Except Stop α :=
  result.mapError fun problem => .fault ⟨command, problem⟩

inductive Source where
  | inline (text : String)
  | standardInput
  | file (path : String)
  deriving DecidableEq, Repr

namespace Source

def ofPath (path : String) : Source := if path = "-" then .standardInput else .file path

def isInline : Source → Bool
  | .inline _ => true
  | _ => false

end Source

structure Draft where
  source : Option Source := none
  pathPassed : Bool := false
  output : Option String := none
  options : Options := {}
  leftover : List String := []

namespace Draft

def leave (d : Draft) (arguments : List String) : Draft :=
  { d with leftover := d.leftover ++ arguments }

/-- A path, for which there is room once and only without a source. -/
def setPath (d : Draft) (path : String) : Except Problem Draft :=
  if d.source.isSome then .error .pathAfterSource
  else .ok { d with source := some (.ofPath path), pathPassed := true }

/-- A later source replaces an earlier one, but a path may not stand beside it. -/
def setSource (d : Draft) (text : String) : Except Problem Draft :=
  if d.source.any (!·.isInline) then .error .sourceAfterPath
  else .ok { d with source := some (.inline text) }

def digitLimit : Nat := 4300

def setPrecision (d : Draft) (value : String) : Except Problem Draft :=
  match Literal.whole? value with
  | none => .error (.unreadablePrecision value)
  | some n =>
    if (value.toList.filter isDecimalDigit).length > digitLimit then
      .error (.unreadablePrecision value)
    else
      match Options.make? n d.options.pointRadius d.options.xmlDeclaration with
      | none => .error .precisionOutOfRange
      | some options => .ok { d with options := options }

def apply (command : Command) (d : Draft) (given : Setting) : Except Stop Draft :=
  match given.switch with
  | .help => .error .help
  | .verbose => .ok d
  | .source => located command (d.setSource given.value)
  | .output => .ok { d with output := some given.value }
  | .precision => located command (d.setPrecision given.value)
  | .noDeclaration => .ok { d with options := { d.options with xmlDeclaration := false } }

end Draft

/-- The plain argument at the head that a path is read from, if there is one, and what follows. Two
dashes beside it go with it. -/
def splitPath : List (String × Mark) → Option String × List (String × Mark)
  | (_, .separator) :: (path, .plain) :: rest => (some path, rest)
  | (_, .separator) :: rest => (none, rest)
  | (path, .plain) :: (_, .separator) :: rest => (some path, rest)
  | (path, .plain) :: rest => (some path, rest)
  | rest => (none, rest)

/-- Reads the arguments of a command; the fuel is their number. -/
def readDraft (command : Command) : Nat → Draft → List (String × Mark) → Except Stop Draft
  | 0, d, _ => .ok d
  | _ + 1, d, [] => .ok d
  | fuel + 1, d, (argument, mark) :: rest =>
    match mark with
    | .unknown => readDraft command fuel (d.leave [argument]) rest
    | .switch s short attached => do
      let taken ← located command (take (Switch.known (some command)) s short attached rest)
      let d ← taken.settings.foldlM (Draft.apply command) d
      readDraft command fuel (d.leave taken.leftover) taken.rest
    | _ =>
      if d.pathPassed then readDraft command fuel (d.leave [argument]) rest
      else
        match splitPath ((argument, mark) :: rest) with
        | (some path, rest) => do
          readDraft command fuel (← located command (d.setPath path)) rest
        | (none, rest) => readDraft command fuel { d with pathPassed := true } rest

inductive Task where
  | compile (output : Option String) (options : Options)
  | check
  | tokens

structure Invocation where
  verbose : Bool
  source : Source
  task : Task

def Draft.task (d : Draft) : Command → Task
  | .compile => .compile d.output d.options
  | .check => .check
  | .tokens => .tokens

/-- Reads the arguments that follow a command, with those before it that nothing claims. -/
def readAfter (command : Command) (verbose : Bool) (leftover arguments : List String) :
    Except Stop Invocation := do
  let marks ← located command (Mark.all (Switch.known (some command)) arguments)
  let d ← readDraft command marks.length {} marks
  match d.source, leftover ++ d.leftover with
  | none, _ => throw (.fault ⟨some command, .missingSource⟩)
  | some source, [] => return ⟨verbose, source, d.task command⟩
  | some _, unclaimed => throw (.fault ⟨none, .unrecognized unclaimed⟩)

/-- Reads the arguments from the start up to a command; the fuel is their number. -/
def readBefore : Nat → Bool → List String → List (String × Mark) → Except Stop Invocation
  | fuel + 1, verbose, leftover, (argument, mark) :: rest =>
    match mark with
    | .unknown => readBefore fuel verbose (leftover ++ [argument]) rest
    | .switch s short attached => do
      let taken ← located none (take (Switch.known none) s short attached rest)
      if taken.settings.any (·.switch = .help) then throw .help
      readBefore fuel (verbose || taken.settings.any (·.switch = .verbose))
        (leftover ++ taken.leftover) taken.rest
    | .separator =>
      throw (.fault ⟨none, if rest.isEmpty then .missingCommand else .unknownCommand argument⟩)
    | .plain =>
      match ofName? argument with
      | none => throw (.fault ⟨none, .unknownCommand argument⟩)
      | some command => readAfter command verbose leftover (rest.map (·.1))
  | _, _, _, _ => throw (.fault ⟨none, .missingCommand⟩)

def read (arguments : List String) : Except Stop Invocation := do
  let marks ← located none (Mark.all (Switch.known none) arguments)
  readBefore marks.length false [] marks

end PlotLang.Command
