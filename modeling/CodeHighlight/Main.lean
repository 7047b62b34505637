import CodeHighlight.CommandLine.Program

/-!
# The command line

Runs the program on the files of the system.
-/

namespace CodeHighlight.CommandLine

/-- Why the system refused. -/
def causeOf : IO.Error → AccessCause
  | .noFileOrDirectory .. => .missing
  | .permissionDenied .. => .denied
  | .alreadyExists .. => .present
  | .inappropriateType .. => .notDirectory
  | .illegalOperation .. => .isDirectory
  | fault => .other fault.toString

/-- Runs an action on a path. -/
def attempt {α : Type} (path : String) (action : IO α) : IO (Except AccessFault α) := do
  match ← action.toBaseIO with
  | .ok value => return .ok value
  | .error fault => return .error ⟨causeOf fault, path⟩

/-- Access to the files of the system. -/
def systemFiles : FileAccess IO where
  home := return Path.ofText (← IO.currentDir).toString
  kind? path := do
    let place := (← IO.currentDir) / path
    if ← place.isDir then return some .directory
    else if ← place.pathExists then return some .file
    else return none
  read path := attempt path (return (← IO.FS.readBinFile path).toList)
  makeDirectory path := attempt path (IO.FS.createDir path)
  write path text := attempt path (IO.FS.writeFile path text)

end CodeHighlight.CommandLine

open CodeHighlight CommandLine

/-- Runs the program on the words of the command line. -/
def main (words : List String) : IO UInt32 := do
  let outcome ← run systemFiles words
  IO.print outcome.output.shown
  for notice in outcome.notices do
    IO.eprint notice.shown
  return UInt32.ofNat outcome.exitCode
