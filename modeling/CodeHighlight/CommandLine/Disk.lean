import CodeHighlight.CommandLine.Files
import CodeHighlight.Text.Utf8

/-!
# Files in memory

A tree of files and directories that serves commands in place of the system's own. A path is
followed name by name; every name but the last has to be a directory.
-/

namespace CodeHighlight.CommandLine

/-- What stands at a place. -/
inductive Entry where
  | file (bytes : List UInt8)
  | directory
deriving Repr, DecidableEq

/-- Entries by their place below the root, and the place at which relative paths begin. -/
structure Disk where
  home : List String := []
  entries : List (List String × Entry) := []
deriving Repr

namespace Disk

/-- What stands at a place; the root is a directory. -/
def stands? (d : Disk) (place : List String) : Option Entry :=
  if place = [] then some .directory else d.entries.lookup place

/-- Puts an entry at a place. -/
def put (d : Disk) (place : List String) (entry : Entry) : Disk :=
  { d with entries := (place, entry) :: d.entries }

/-- Follows pieces of a path from a place on. -/
def follow (d : Disk) (path : String) (place : List String) :
    List String → Except AccessFault (List String)
  | [] => .ok place
  | piece :: rest =>
    match d.stands? place with
    | none => .error ⟨.missing, path⟩
    | some (.file _) => .error ⟨.notDirectory, path⟩
    | some .directory =>
      if piece = "" || piece = "." then follow d path place rest
      else follow d path (Path.stepTo place piece) rest

/-- The place that a path leads to, whether something stands there or not. -/
def locate (d : Disk) (path : String) : Except AccessFault (List String) :=
  if path = "" then .error ⟨.missing, path⟩
  else d.follow path (if Path.isAbsolute path then [] else d.home) (Path.pieces path)

/-- What stands at a path. -/
def at? (d : Disk) (path : String) : Option Entry :=
  match d.locate path with
  | .ok place => d.stands? place
  | .error _ => none

/-- The bytes of the file at a path. -/
def read (d : Disk) (path : String) : Except AccessFault (List UInt8) := do
  match d.stands? (← d.locate path) with
  | none => throw ⟨.missing, path⟩
  | some .directory => throw ⟨.isDirectory, path⟩
  | some (.file bytes) => return bytes

/-- Makes one directory. -/
def makeDirectory (d : Disk) (path : String) : Except AccessFault Disk := do
  let place ← d.locate path
  match d.stands? place with
  | some _ => throw ⟨.present, path⟩
  | none => return d.put place .directory

/-- Puts bytes in the file at a path. -/
def write (d : Disk) (path : String) (bytes : List UInt8) : Except AccessFault Disk := do
  let place ← d.locate path
  match d.stands? place with
  | some .directory => throw ⟨.isDirectory, path⟩
  | _ => return d.put place (.file bytes)

/-- Runs a change; a refused one leaves the disk as it is. -/
def change (f : Disk → Except AccessFault Disk) : StateM Disk (Except AccessFault Unit) := fun d =>
  match f d with
  | .ok d => (.ok (), d)
  | .error fault => (.error fault, d)

/-- Access to a disk. -/
def access : FileAccess (StateM Disk) where
  home := fun d => (⟨true, d.home⟩, d)
  kind? path := fun d => ((d.at? path).map fun
    | .file _ => .file
    | .directory => .directory, d)
  read path := fun d => (d.read path, d)
  makeDirectory path := change (·.makeDirectory path)
  write path text := change (·.write path text.toUTF8.toList)

/-- What was put at a place stands there. -/
theorem stands?_put (d : Disk) {place : List String} (entry : Entry) (h : place ≠ []) :
    (d.put place entry).stands? place = some entry := by
  simp [stands?, put, h]

end Disk

end CodeHighlight.CommandLine
