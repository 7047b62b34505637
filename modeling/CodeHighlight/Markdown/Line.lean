import CodeHighlight.Text.Blank

/-!
# Lines inside containers

A block sees the lines of its source through the containers around it: a quotation takes its mark
off every line, a list item its marker off the first. What is left of a line begins at some column,
so that tabs reach to the right stops, and has an indentation that is counted in columns.
-/

namespace CodeHighlight.Markdown

/-- What a block sees of a line. -/
structure Line where
  /-- The characters from the container's edge on. -/
  text : List Char
  /-- How many of them lie before the content. -/
  skip : Nat
  /-- The columns before the content; below zero for a line that only continues a paragraph. -/
  indent : Int
  /-- The column of the container's edge. -/
  column : Nat
  /-- A line feed ends the line. -/
  ended : Bool
deriving Repr, DecidableEq

/-- A blank inside a line. -/
def isSpace (c : Char) : Bool := c = ' ' || c = '\t'

/-- Columns that a blank takes at a column. -/
def spaceWidth (column : Nat) (c : Char) : Nat := if c = '\t' then 4 - column % 4 else 1

/-- Columns that the blanks at the front take, and how many there are. -/
def leadingSpace (column : Nat) : List Char → Nat × Nat
  | [] => (0, 0)
  | c :: rest =>
    if isSpace c then
      let width := spaceWidth column c
      let (columns, count) := leadingSpace (column + width) rest
      (width + columns, count + 1)
    else (0, 0)

namespace Line

/-- A line outside all containers. -/
def ofText (text : List Char) (ended : Bool) : Line :=
  let (columns, count) := leadingSpace 0 text
  ⟨text, count, columns, 0, ended⟩

/-- The lines of pieces between line feeds. A last piece of blanks is no line. -/
def ofPieces : List (List Char) → List Line
  | [] => []
  | [last] => if last.all isSpace then [] else [ofText last false]
  | piece :: rest => ofText piece true :: ofPieces rest

/-- The lines of a source. -/
def ofSource (source : List Char) : List Line := ofPieces (Text.splitAt '\n' source)

/-- The content without the indentation. -/
def body (line : Line) : List Char := line.text.drop line.skip

/-- The line has no content. -/
def isEmpty (line : Line) : Bool := line.body.isEmpty

/-- Takes characters off the front up to a column; `done` columns and `passed` characters are
behind. A character before the content takes one column, whatever it is. -/
def cutFrom (line : Line) (column done passed : Nat) : List Char → List Char
  | [] => List.replicate (done - column) ' '
  | c :: rest =>
    if done < column ∧ isSpace c then
      cutFrom line column (done + spaceWidth (done + line.column) c) (passed + 1) rest
    else if done < column ∧ passed < line.skip then
      cutFrom line column (done + 1) (passed + 1) rest
    else List.replicate (done - column) ' ' ++ c :: rest

/-- The text of a line from a column on; a tab that is cut leaves blanks. -/
def cut (line : Line) (column : Nat) : List Char := line.cutFrom column 0 0 line.text

/-- The line feed that ends the line, if there is one. -/
def ending (line : Line) : List Char := if line.ended then ['\n'] else []

/-- The texts of lines from a column on, with their line feeds. -/
def cutAll (column : Nat) (lines : List Line) : List Char :=
  lines.flatMap fun line => line.cut column ++ line.ending

/-- The texts of lines from a column on; the last line without its line feed. -/
def cutInner (column : Nat) : List Line → List Char
  | [] => []
  | [line] => line.cut column
  | line :: rest => line.cut column ++ '\n' :: cutInner column rest

end Line

end CodeHighlight.Markdown
