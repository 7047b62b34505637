import CodeHighlight.Markdown.Inline
import CodeHighlight.Markdown.Target

/-!
# Blocks

The blocks of a document as they are read, one after the other: an enclosing block opens and closes,
everything else stands alone. The running text `α` is first the text as it was written and later its
pieces, since a label may be defined behind its use.
-/

namespace CodeHighlight.Markdown

/-- The alignment of a column. -/
inductive Alignment where
  | left
  | center
  | right
deriving Repr, DecidableEq

/-- The value of an alignment in a style. -/
def Alignment.name : Alignment → String
  | .left => "left"
  | .center => "center"
  | .right => "right"

/-- What encloses other blocks or running text. -/
inductive Enclosure where
  /-- A paragraph; the items of a tight list hide theirs. -/
  | paragraph (hidden : Bool)
  | heading (level : Nat)
  | quote
  | bullets
  | numbers (first : Nat)
  | item
  | table
  | tableHead
  | tableBody
  | row
  | headCell (alignment : Option Alignment)
  | cell (alignment : Option Alignment)
deriving Repr, DecidableEq

namespace Enclosure

/-- The name under which an enclosure is reported. -/
def name : Enclosure → String
  | paragraph _ => "paragraph"
  | heading _ => "heading"
  | quote => "blockquote"
  | bullets => "bullet_list"
  | numbers _ => "ordered_list"
  | item => "list_item"
  | table => "table"
  | tableHead => "thead"
  | tableBody => "tbody"
  | row => "tr"
  | headCell _ => "th"
  | cell _ => "td"

/-- The element that shows an enclosure. -/
def element : Enclosure → String
  | paragraph _ => "p"
  | heading level => "h" ++ toString level
  | quote => "blockquote"
  | bullets => "ul"
  | numbers _ => "ol"
  | item => "li"
  | table => "table"
  | tableHead => "thead"
  | tableBody => "tbody"
  | row => "tr"
  | headCell _ => "th"
  | cell _ => "td"

/-- The attributes of the element. -/
def attributes : Enclosure → List Char
  | numbers first => if first = 1 then [] else Inline.property "start" (toString first).toList
  | headCell (some a) | cell (some a) => Inline.property "style" ("text-align:" ++ a.name).toList
  | _ => []

/-- The element is not shown. -/
def isHidden : Enclosure → Bool
  | paragraph hidden => hidden
  | _ => false

end Enclosure

/-- A token of the row of blocks as the reader makes it. -/
inductive BlockToken (α : Type) where
  | opening (enclosure : Enclosure)
  | closing (enclosure : Enclosure)
  | rule
  /-- Markup that is passed on as it is. -/
  | html (content : List Char)
  /-- Code between fences; the text behind the opening fence is its info. -/
  | fence (info content : List Char)
  | indented (content : List Char)
  | inline (content : α)
deriving Repr

namespace BlockToken

variable {α β : Type}

/-- Changes the running text. -/
def map (f : α → β) : BlockToken α → BlockToken β
  | opening e => opening e
  | closing e => closing e
  | rule => rule
  | html content => html content
  | fence info content => fence info content
  | indented content => indented content
  | inline content => inline (f content)

/-- Hides the paragraphs at depth zero; `depth` enclosures are open. -/
def hideParagraphs : Nat → List (BlockToken α) → List (BlockToken α)
  | _, [] => []
  | depth, opening e :: rest =>
    (match depth, e with
      | 0, .paragraph _ => opening (.paragraph true)
      | _, e => opening e) :: hideParagraphs (depth + 1) rest
  | depth, closing e :: rest =>
    (match depth, e with
      | 1, .paragraph _ => closing (.paragraph true)
      | _, e => closing e) :: hideParagraphs (depth - 1) rest
  | depth, token :: rest => token :: hideParagraphs depth rest

end BlockToken

end CodeHighlight.Markdown
