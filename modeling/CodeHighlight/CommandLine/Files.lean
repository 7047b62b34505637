import CodeHighlight.CommandLine.Path
import CodeHighlight.Fault
import CodeHighlight.Text.Quoted

/-!
# Access to files

What a command needs of the system that holds its files: what stands at a path, reading, writing,
and making one directory. Making a directory with all those above it is built from that.
-/

namespace CodeHighlight.CommandLine

/-- What stands at a path. -/
inductive EntryKind where
  | file
  | directory
deriving Repr, DecidableEq

/-- Why the system refuses. -/
inductive AccessCause where
  | missing
  | denied
  | present
  | notDirectory
  | isDirectory
  /-- Anything else, in the words of the system. -/
  | other (text : String)
deriving Repr, DecidableEq

/-- A refusal and the path that it concerns. -/
structure AccessFault where
  cause : AccessCause
  path : String
deriving Repr, DecidableEq

namespace AccessFault

/-- The kind of failure that a refusal is. -/
def kind (f : AccessFault) : FaultKind :=
  match f.cause with
  | .missing => .fileMissing
  | .denied => .accessDenied
  | .present => .fileExists
  | .notDirectory => .notDirectory
  | .isDirectory => .isDirectory
  | .other _ => .system

/-- The wording of a cause, with the number that the system gives it. -/
def wording : AccessCause → String
  | .missing => "[Errno 2] No such file or directory"
  | .denied => "[Errno 13] Permission denied"
  | .present => "[Errno 17] File exists"
  | .notDirectory => "[Errno 20] Not a directory"
  | .isDirectory => "[Errno 21] Is a directory"
  | .other text => text

/-- The failure that a refusal raises. -/
def failure (f : AccessFault) : Failure :=
  .plain f.kind (wording f.cause ++ ": " ++ Text.quotedString f.path)

end AccessFault

/-- The operations of a system of files. -/
structure FileAccess (m : Type → Type) where
  /-- The directory at which relative paths begin. -/
  home : m Path
  /-- What stands at a path, if anything does. -/
  kind? : String → m (Option EntryKind)
  /-- The bytes of a file. -/
  read : String → m (Except AccessFault (List UInt8))
  /-- Makes one directory in a directory that stands already. -/
  makeDirectory : String → m (Except AccessFault Unit)
  /-- Puts a text in a file, which is made or replaced. -/
  write : String → String → m (Except AccessFault Unit)

namespace FileAccess

variable {m : Type → Type} [Monad m]

/-- Makes a directory unless it stands already. -/
def ensureOne (files : FileAccess m) (path : String) : m (Except AccessFault Unit) := do
  match ← files.makeDirectory path with
  | .ok () => return .ok ()
  | .error fault =>
    if fault.cause = .missing then return .error fault
    match ← files.kind? path with
    | some .directory => return .ok ()
    | _ => return .error fault

/-- Makes a directory and those above it; `names` come last name first. -/
def ensureAll (files : FileAccess m) (absolute : Bool) :
    (names : List String) → m (Except AccessFault Unit)
  | [] => files.ensureOne (Path.text ⟨absolute, []⟩)
  | name :: above => do
    let path := Path.text ⟨absolute, (name :: above).reverse⟩
    match ← files.ensureOne path with
    | .ok () => return .ok ()
    | .error fault =>
      if fault.cause = .missing then
        match ← ensureAll files absolute above with
        | .ok () => files.ensureOne path
        | .error fault => return .error fault
      else return .error fault

/-- Writes a file and makes the directories that it needs. -/
def writeAt (files : FileAccess m) (target : Path) (text : String) :
    m (Except AccessFault Unit) := do
  match ← files.ensureAll target.absolute target.parent.names.reverse with
  | .ok () => files.write target.text text
  | .error fault => return .error fault

end FileAccess

end CodeHighlight.CommandLine
