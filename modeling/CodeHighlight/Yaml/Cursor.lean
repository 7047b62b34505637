import CodeHighlight.Text.LineBreak

/-!
# Places in a data text

What is indented by how much decides how data nests, so a place knows its line and its column. A
byte order mark takes no column. Lines end with line feeds only.
-/

namespace CodeHighlight.Yaml

/-- A place in a text: what is still to come, and where it is. -/
structure Cursor where
  rest : List Char
  index : Nat := 0
  line : Nat := 0
  column : Nat := 0
deriving Repr, DecidableEq

namespace Cursor

/-- Passes so many characters. -/
def skip : Nat → Cursor → Cursor
  | 0, c => c
  | n + 1, c =>
    match c.rest with
    | [] => c
    | ch :: rest =>
      let (line, column) :=
        if ch = '\n' then (c.line + 1, 0)
        else (c.line, if ch = Text.byteOrderMark then c.column else c.column + 1)
      skip n ⟨rest, c.index + 1, line, column⟩

/-- Goes on to what is left of the text. -/
def goTo (c : Cursor) (rest : List Char) : Cursor := c.skip (c.rest.length - rest.length)

end Cursor

/-- A blank, a line feed or the end comes next. -/
def atGap (text : List Char) : Bool := text.head?.all fun c => c = ' ' || c = '\t' || c = '\n'

/-- A space, a line feed or the end comes next. -/
def atSpace (text : List Char) : Bool := text.head?.all fun c => c = ' ' || c = '\n'

/-- A line feed or the end comes next. -/
def atLineEnd (text : List Char) : Bool := text.head?.all (· = '\n')

/-- A mark of three characters comes next. -/
def atMark (mark : String) (text : List Char) : Bool :=
  text.take 3 = mark.toList && atGap (text.drop 3)

/-- A mark between documents comes next. -/
def atDocumentMark (text : List Char) : Bool := atMark "---" text || atMark "..." text

/-- Drops spaces. -/
def dropSpaces (text : List Char) : List Char := text.dropWhile (· = ' ')

/-- Drops the rest of a line. -/
def dropLine (text : List Char) : List Char := text.dropWhile (· ≠ '\n')

/-- Drops the spaces and the comment that end a line; nothing else may stand there. -/
def closeLine? (text : List Char) : Option (List Char) :=
  let rest := dropSpaces text
  let rest := if rest.head? = some '#' then dropLine rest else rest
  match rest with
  | [] => some []
  | '\n' :: rest => some rest
  | _ => none

end CodeHighlight.Yaml
