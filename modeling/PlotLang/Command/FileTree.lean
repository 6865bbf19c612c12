import PlotLang.Command.FileSystem

/-! # Files as a command sees them

All directories and files, from the root down, and the working directory. There are no links, and
nothing is forbidden.
-/

namespace PlotLang

/-- The directories that contain the working one are not listed. -/
structure FileTree where
  location : Path
  directories : List Path
  files : List (Path × List UInt8)
  deriving DecidableEq, Repr

namespace FileTree

inductive Cause where
  | missing
  | exists
  | notDirectory
  | isDirectory
  | nameTooLong
  deriving DecidableEq, Repr

namespace Cause

def number : Cause → Nat
  | .missing => 2
  | .exists => 17
  | .notDirectory => 20
  | .isDirectory => 21
  | .nameTooLong => 36

def text : Cause → String
  | .missing => "No such file or directory"
  | .exists => "File exists"
  | .notDirectory => "Not a directory"
  | .isDirectory => "Is a directory"
  | .nameTooLong => "File name too long"

def refuse (cause : Cause) (path : String) : Raised :=
  if Path.wellFormed path then Path.refused cause.number cause.text (some path) else Path.malformed

end Cause

inductive Node where
  | directory
  | file (content : List UInt8)
  deriving DecidableEq, Repr

def empty (location : Path) : FileTree := ⟨location, [], []⟩

def node? (t : FileTree) (p : Path) : Option Node :=
  if p.isPrefixOf t.location || t.directories.contains p then some .directory
  else (t.files.lookup p).map .file

def addDirectory (t : FileTree) (p : Path) : FileTree :=
  { t with directories := t.directories ++ [p] }

def putFile (t : FileTree) (p : Path) (content : List UInt8) : FileTree :=
  { t with files := t.files.filter (·.1 != p) ++ [(p, content)] }

def start (t : FileTree) (path : String) : Path :=
  if Path.isAbsolute path then [] else t.location

/-- The largest size of a name and of a path, in octets. -/
def nameLimit : Nat := 255

def pathLimit : Nat := 4095

/-- Follows names one by one; each is looked up in a directory. -/
def walk (t : FileTree) : Path → List String → Except Cause Path
  | p, [] => .ok p
  | p, name :: rest =>
    match t.node? p with
    | none => .error .missing
    | some (.file _) => .error .notDirectory
    | some .directory =>
      if name.utf8ByteSize > nameLimit then .error .nameTooLong
      else t.walk (Path.step p name) rest

/-- A path as it is given, if it can be that of a file at all. -/
def given (path : String) : Except Cause Unit :=
  if path.isEmpty then .error .missing
  else if path.utf8ByteSize > pathLimit then .error .nameTooLong
  else .ok ()

def content (t : FileTree) (path : String) : Except Cause (List UInt8) := do
  given path
  let p ← t.walk (t.start path) (Path.names path)
  match t.node? p with
  | none => .error .missing
  | some .directory => .error .isDirectory
  | some (.file content) => .ok content

def read (t : FileTree) (path : String) : Except Raised (List UInt8) :=
  if Path.wellFormed path then (t.content path).mapError (·.refuse path)
  else .error Path.malformed

/-- Makes the directories that are missing on the way down; those made before a fault stay. -/
def makeDirectories (above : Path) : Path → FileTree → Except Raised Unit × FileTree
  | [], t => (.ok (), t)
  | name :: rest, t =>
    let here := above ++ [name]
    match t.node? here with
    | some .directory => makeDirectories here rest t
    | some (.file _) =>
      match rest with
      | [] => (.error (Cause.exists.refuse (Path.text here)), t)
      | next :: _ => (.error (Cause.notDirectory.refuse (Path.text (here ++ [next]))), t)
    | none =>
      if name.utf8ByteSize > nameLimit || !Path.wellFormed name then
        (.error (Cause.nameTooLong.refuse (Path.text here)), t)
      else makeDirectories here rest (t.addDirectory here)

/-- The place of a file to be written, which need not exist yet. -/
def target (t : FileTree) (path : String) : Except Cause Path := do
  given path
  let named := (Path.names path).filter (· ≠ "")
  match named.getLast? with
  | none => .error .isDirectory
  | some last =>
    let above ← t.walk (t.start path) (named.dropLast ++ ["."])
    if last = "." || last = ".." || path.endsWith "/" then .error .isDirectory
    else if last.utf8ByteSize > nameLimit then .error .nameTooLong
    else
      match t.node? (Path.step above last) with
      | some .directory => .error .isDirectory
      | _ => .ok (Path.step above last)

def create (path : String) (t : FileTree) : Except Raised Path × FileTree :=
  if Path.wellFormed path then
    match t.target path with
    | .error cause => (.error (cause.refuse path), t)
    | .ok p => (.ok p, t.putFile p [])
  else (.error Path.malformed, t)

/-- An open file is known by its place. -/
def system : Command.FileSystem FileTree Path where
  read := read
  location t := .ok t.location
  makeDirectories := makeDirectories []
  create := create
  write p content t := (.ok (), t.putFile p content)

end FileTree

end PlotLang
