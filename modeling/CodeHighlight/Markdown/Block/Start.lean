import CodeHighlight.Markdown.Line
import CodeHighlight.Markdown.Tag

/-!
# Beginnings of blocks

How a line begins a block, seen from the container around it. Some blocks may begin where another
one would otherwise go on; which ones depends on the other block.
-/

namespace CodeHighlight.Markdown

/-- The container around a block. -/
structure Frame where
  /-- The column where its content begins. -/
  edge : Nat := 0
  /-- The column where the content of the container of the innermost list begins. -/
  listEdge : Option Nat := none
  /-- How many enclosures are open. -/
  level : Nat := 0

/-- The fence that opens code. -/
structure Fence where
  marker : Char
  length : Nat
  info : List Char

/-- The marker of a list item. -/
structure ListMarker where
  /-- The number of an item in an ordered list. -/
  number : Option Nat
  /-- Its last character. -/
  symbol : Char
  /-- Its length. -/
  width : Nat

/-- What a line would interrupt. -/
inductive Ongoing where
  | paragraph
  /-- A definition. -/
  | definition
  /-- A quotation or a table. -/
  | quote
  | list
deriving DecidableEq

namespace ListMarker

/-- A blank or nothing follows a marker. -/
def endsAt (rest : List Char) : Bool := rest.head?.all isSpace

/-- The marker of an ordered list at the front: at most nine digits and a full stop or a
parenthesis. -/
def ordered? (body : List Char) : Option ListMarker :=
  let digits := body.takeWhile Char.isDigit
  match body.drop digits.length with
  | c :: rest =>
    if !digits.isEmpty && digits.length ≤ 9 && (c = '.' || c = ')') && endsAt rest then
      some ⟨some (digits.foldl (fun n d => 10 * n + (d.toNat - 48)) 0), c, digits.length + 1⟩
    else none
  | [] => none

/-- The marker of an unordered list at the front. -/
def bullet? (body : List Char) : Option ListMarker :=
  match body with
  | c :: rest =>
    if (c = '*' || c = '-' || c = '+') && endsAt rest then some ⟨none, c, 1⟩ else none
  | [] => none

/-- The marker at the front. -/
def ofBody? (body : List Char) : Option ListMarker := (ordered? body).or (bullet? body)

/-- Both markers belong to one list. -/
def continues (a b : ListMarker) : Bool :=
  a.number.isSome = b.number.isSome && a.symbol = b.symbol

end ListMarker

namespace Frame

/-- The line is indented so far that it is code. -/
def isCode (f : Frame) (line : Line) : Bool := 4 ≤ line.indent - f.edge

/-- The fence that a line opens. -/
def fence? (f : Frame) (line : Line) : Option Fence :=
  match line.body with
  | [] => none
  | c :: _ =>
    let run := line.body.takeWhile (· = c)
    let info := line.body.drop run.length
    if f.isCode line || !(c = '~' || c = Char.ofNat 0x60) || run.length < 3 then none
    else if c ≠ '~' && info.contains c then none
    else some ⟨c, run.length, info⟩

/-- The line begins a quotation. -/
def startsQuote (f : Frame) (line : Line) : Bool :=
  !f.isCode line && line.body.head? = some '>'

/-- The line is a rule: three equal marks or more, with blanks between them. -/
def isRule (f : Frame) (line : Line) : Bool :=
  match line.body with
  | [] => false
  | c :: rest =>
    !f.isCode line && (c = '*' || c = '-' || c = '_') &&
      rest.all (fun d => d = c || isSpace d) && 2 ≤ rest.count c

/-- The marker of the item that a line begins. Inside a paragraph a list has to begin with the
number one, and its first item must not be empty. -/
def listMarker? (f : Frame) (inParagraph : Bool) (line : Line) : Option ListMarker :=
  let tooDeep := f.listEdge.any (fun edge => 4 ≤ line.indent - edge) && line.indent < f.edge
  if f.isCode line || tooDeep then none
  else do
    let marker ← ListMarker.ofBody? line.body
    if inParagraph && f.edge ≤ line.indent &&
        (marker.number.any (· ≠ 1) || (line.body.drop marker.width).all isSpace) then none
    else return marker

/-- The block of markup that a line begins. -/
def html? (f : Frame) (line : Line) : Option Tag.Block :=
  if f.isCode line || line.body.head? ≠ some '<' then none else Tag.block? line.body

/-- The level of the heading that a line is, and its text. -/
def heading? (f : Frame) (line : Line) : Option (Nat × List Char) :=
  let level := (line.body.takeWhile (· = '#')).length
  let rest := line.body.drop level
  if f.isCode line || level = 0 || 6 < level || !rest.head?.all isSpace then none
  else
    let rest := (rest.reverse.dropWhile isSpace).reverse
    let front := (rest.reverse.dropWhile (· = '#')).reverse
    let text := if front.getLast?.any isSpace then front else rest
    some (level, Text.trim text)

end Frame

end CodeHighlight.Markdown
