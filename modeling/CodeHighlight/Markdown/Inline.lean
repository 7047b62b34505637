import CodeHighlight.Text.Escape

/-!
# Running text

The content of a paragraph, a heading or a table cell, and its markup. An image shows its text as an
attribute, so only the words of that text are kept.
-/

namespace CodeHighlight.Markdown

/-- The content of running text. -/
inductive Inline where
  | text (content : List Char)
  /-- Characters that were written behind a backslash or as a reference. -/
  | special (content : List Char)
  | code (content : List Char)
  /-- A tag, passed on as it is. -/
  | html (content : List Char)
  | softBreak
  | hardBreak
  /-- The beginning or the end of emphasized text. -/
  | emphasis (strong closing : Bool)
  | link (address : List Char) (title : Option (List Char)) (content : List Inline)
  | image (address : List Char) (title : Option (List Char)) (content : List Inline)
deriving Repr

namespace Inline

/-- A text as it is written in markup. -/
def escape (text : List Char) : List Char := Text.escape .doubleOnly text

/-- An attribute with a blank before it. -/
def property (name : String) (value : List Char) : List Char :=
  ' ' :: name.toList ++ '=' :: '"' :: escape value ++ ['"']

/-- The attribute for a title; an empty title has none. -/
def titleAttribute : Option (List Char) → List Char
  | some (c :: rest) => property "title" (c :: rest)
  | _ => []

mutual

/-- The words of one piece inside an image. -/
def words : Inline → List Char
  | text content => content
  | softBreak => ['\n']
  | link _ _ content => wordsAll content
  | image _ _ content => wordsAll content
  | _ => []

/-- The words of the text of an image. -/
def wordsAll : List Inline → List Char
  | [] => []
  | piece :: rest => words piece ++ wordsAll rest

end

mutual

/-- The markup of one piece. -/
def render : Inline → List Char
  | text content => escape content
  | special content => escape content
  | code content => "<code>".toList ++ escape content ++ "</code>".toList
  | html content => content
  | softBreak => ['\n']
  | hardBreak => "<br />\n".toList
  | emphasis strong closing =>
    (if closing then "</" else "<").toList ++ (if strong then "strong>" else "em>").toList
  | link address title content =>
    "<a".toList ++ property "href" address ++ titleAttribute title ++ ['>'] ++
      renderAll content ++ "</a>".toList
  | image address title content =>
    "<img".toList ++ property "src" address ++ property "alt" (wordsAll content) ++
      titleAttribute title ++ " />".toList

/-- The markup of running text. -/
def renderAll : List Inline → List Char
  | [] => []
  | piece :: rest => render piece ++ renderAll rest

end

end Inline

end CodeHighlight.Markdown
