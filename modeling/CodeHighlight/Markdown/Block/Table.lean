import CodeHighlight.Markdown.Block
import CodeHighlight.Markdown.Block.Start

/-!
# Tables

A table begins with a row of heads and a row of hyphens that aligns the columns. Cells are divided
by vertical bars; a bar behind a backslash belongs to its cell. A row that is too short is filled
up, and one that is too long is cut.
-/

namespace CodeHighlight.Markdown.Table

/-- Whether a cell of the second row is a run of hyphens, with colons for the alignment. -/
def delimiter? (cell : List Char) : Option (Option Alignment) :=
  let left := cell.head? = some ':'
  let inner := if left then cell.drop 1 else cell
  let right := inner.getLast? = some ':'
  let hyphens := if right then inner.dropLast else inner
  if hyphens.isEmpty || !hyphens.all (· = '-') then none
  else some (
    if left && right then some .center
    else if right then some .right
    else if left then some .left
    else none)

/-- The alignments of cells that may be empty at both ends. -/
def alignmentsFrom? (first : Bool) : List (List Char) → Option (List (Option Alignment))
  | [] => some []
  | cell :: rest => do
    let cell := Text.trim cell
    let others ← alignmentsFrom? false rest
    if cell.isEmpty then
      if first || rest.isEmpty then return others else none
    else
      let alignment ← delimiter? cell
      return alignment :: others

/-- A character of the second row. -/
def isDelimiterChar (c : Char) : Bool := c = '|' || c = '-' || c = ':'

/-- The alignments that a second row gives. -/
def alignments? (body : List Char) : Option (List (Option Alignment)) :=
  match body with
  | a :: b :: rest =>
    if isDelimiterChar a && (isDelimiterChar b || (isSpace b && a ≠ '-')) &&
        rest.all (fun c => isDelimiterChar c || isSpace c) then
      alignmentsFrom? true (Text.splitAt '|' body)
    else none
  | _ => none

/-- Cuts a row at its bars; `cell` is read so far, its last character first. -/
def cutRow (escaped : Bool) (cell : List Char) : List Char → List (List Char)
  | [] => [cell.reverse]
  | c :: rest =>
    if c = '|' then
      if escaped then cutRow false (c :: cell.drop 1) rest
      else cell.reverse :: cutRow false [] rest
    else cutRow (c = '\\') (c :: cell) rest

/-- The cells of a row; empty ones at both ends are no cells. -/
def cells (row : List Char) : List (List Char) :=
  let pieces := cutRow false [] row
  let pieces := if pieces.head? = some [] then pieces.drop 1 else pieces
  if pieces.getLast? = some [] then pieces.dropLast else pieces

/-- The head of a table: the text and the alignment of each column. -/
def head? (f : Frame) (line : Line) (rest : List Line) :
    Option (List (List Char × Option Alignment)) :=
  match rest with
  | [] => none
  | second :: _ =>
    if second.indent < f.edge || f.isCode second then none
    else do
      let alignments ← alignments? second.body
      let row := Text.trim line.body
      if !row.contains '|' || f.isCode line then none
      else
        let cells := cells row
        if cells.isEmpty || cells.length ≠ alignments.length then none
        else return cells.zip alignments

/-- The most cells that are filled up in one table. -/
def fillLimit : Int := 0x10000

/-- The tokens of a cell. -/
def cellTokens (e : Enclosure) (text : List Char) : List (BlockToken (List Char)) :=
  [.opening e, .inline (Text.trim text), .closing e]

/-- The tokens of a row below the head. -/
def rowTokens (alignments : List (Option Alignment)) (row : List (List Char)) :
    List (BlockToken (List Char)) :=
  .opening .row :: (alignments.zipIdx.flatMap fun (alignment, i) =>
    cellTokens (.cell alignment) ((row[i]?).getD [])) ++ [.closing .row]

/-- The tokens of a table. -/
def tokens (head : List (List Char × Option Alignment)) (rows : List (List (List Char))) :
    List (BlockToken (List Char)) :=
  let alignments := head.map Prod.snd
  let body := rows.flatMap (rowTokens alignments)
  [.opening .table, .opening .tableHead, .opening .row] ++
    (head.flatMap fun (text, alignment) => cellTokens (.headCell alignment) text) ++
    [.closing .row, .closing .tableHead] ++
    (if rows.isEmpty then [] else .opening .tableBody :: body ++ [.closing .tableBody]) ++
    [.closing .table]

end CodeHighlight.Markdown.Table
