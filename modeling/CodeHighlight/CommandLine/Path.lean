import CodeHighlight.Text.Blank

/-!
# Paths of files

A path is a list of names under the root or under the directory at which relative paths begin. Names
that say nothing are left out; two dots stay, since the directory they leave may be missing.
-/

namespace CodeHighlight.CommandLine

/-- A path without empty names and single dots. -/
structure Path where
  absolute : Bool := false
  names : List String := []
deriving Repr, DecidableEq

namespace Path

/-- The pieces of a path between slashes. -/
def pieces (text : String) : List String := (Text.splitAt '/' text.toList).map String.ofList

/-- The path begins at the root. -/
def isAbsolute (text : String) : Bool := text.toList.head? = some '/'

/-- Reads a path. -/
def ofText (text : String) : Path where
  absolute := isAbsolute text
  names := (pieces text).filter fun name => name ≠ "" && name ≠ "."

/-- Writes a path; one without names is the directory itself. -/
def text (p : Path) : String :=
  if p.absolute then "/" ++ String.intercalate "/" p.names
  else if p.names.isEmpty then "."
  else String.intercalate "/" p.names

/-- The directory that holds the last name. -/
def parent (p : Path) : Path := { p with names := p.names.dropLast }

/-- The last name. -/
def name (p : Path) : String := p.names.getLast?.getD ""

/-- Takes a name onto the way behind; two dots take the last step back. -/
def stepTo (way : List String) (name : String) : List String :=
  if name = ".." then way.dropLast else way ++ [name]

/-- The place that a path means when `home` is the directory at which relative paths begin. -/
def settle (home p : Path) : Path where
  absolute := true
  names := p.names.foldl stepTo (if p.absolute then [] else home.names.foldl stepTo [])

/-- Two dots never join the way. -/
theorem not_mem_stepTo {way : List String} (name : String) (h : ".." ∉ way) :
    ".." ∉ stepTo way name := by
  unfold stepTo
  split
  · exact fun hm => h ((List.dropLast_sublist way).mem hm)
  · rename_i hne
    simp only [List.mem_append, List.mem_singleton, not_or]
    exact ⟨h, fun e => hne e.symm⟩

/-- A way that is followed name by name holds no two dots. -/
theorem not_mem_foldl_stepTo (names : List String) {way : List String} (h : ".." ∉ way) :
    ".." ∉ names.foldl stepTo way := by
  induction names generalizing way with
  | nil => exact h
  | cons name rest ih => exact ih (not_mem_stepTo name h)

/-- A settled path leads nowhere back. -/
theorem not_mem_names_settle (home p : Path) : ".." ∉ (settle home p).names := by
  refine not_mem_foldl_stepTo p.names ?_
  split
  · simp
  · exact not_mem_foldl_stepTo home.names (by simp)

end Path

end CodeHighlight.CommandLine
