import CodeHighlight.Text.Blank

/-!
# Text on a console

A console shows a text line by line: control characters that would move the cursor are dropped, tabs
reach to the next multiple of eight, and no line ends in blanks.
-/

namespace CodeHighlight.CommandLine.Console

/-- Characters that would ring or move the cursor. -/
def isControl (c : Char) : Bool := c ∈ ['\x07', '\x08', '\x0B', '\x0C', '\x0D']

/-- Writes tabs as blanks, from a column on. -/
def expandTabs (column : Nat) : List Char → List Char
  | [] => []
  | c :: rest =>
    if c = '\t' then
      let width := 8 - column % 8
      List.replicate width ' ' ++ expandTabs (column + width) rest
    else c :: expandTabs (column + 1) rest

/-- A line as it is shown. -/
def shownLine (line : List Char) : List Char :=
  Text.trimRight (expandTabs 0 (line.filter fun c => !isControl c))

/-- A text as it is shown, with a line feed at its end. -/
def shown (text : String) : String :=
  String.ofList (Text.joinWith ['\n'] ((Text.splitAt '\n' text.toList).map shownLine) ++ ['\n'])

/-- No tab is shown. -/
theorem not_mem_expandTabs (column : Nat) (text : List Char) : '\t' ∉ expandTabs column text := by
  induction text generalizing column with
  | nil => simp [expandTabs]
  | cons c rest ih =>
    unfold expandTabs
    split
    · simp [ih]
    · rename_i h
      simp [ih, Ne.symm h]

end CodeHighlight.CommandLine.Console
