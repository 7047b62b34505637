import CodeHighlight.Markdown.Block
import CodeHighlight.Markdown.Target
import CodeHighlight.Text.Blank

/-!
# Tokens

The tokens of a row as a tree is built from them. A token has a kind and tells how the row nests at
it; either is possible with the other, though what the reader of blocks makes opens and closes in
pairs. `Token.render` writes a part of a row as markup.
-/

namespace CodeHighlight.Markdown

/-- How a row nests at a token. -/
inductive Nesting where
  | opens
  | stands
  | closes
deriving Repr, DecidableEq

/-- How much deeper the row is behind a token. -/
def Nesting.step : Nesting → Int
  | opens => 1
  | stands => 0
  | closes => -1

/-- A token of a row. -/
structure Token where
  kind : String
  nesting : Nesting
  /-- The element that shows the token. -/
  element : String := ""
  /-- The attributes of the element, as they are written. -/
  attributes : List Char := []
  /-- The element is not shown. -/
  hidden : Bool := false
  /-- What stands behind an opening fence. -/
  info : List Char := []
  content : List Char := []
  /-- The pieces of running text. -/
  pieces : List Inline := []
deriving Repr

/-- What the reader of blocks made, as a token of a row. -/
def BlockToken.token : BlockToken (List Inline) → Token
  | opening e => {
      kind := e.name ++ "_open", nesting := .opens, element := e.element
      attributes := e.attributes, hidden := e.isHidden }
  | closing e => {
      kind := e.name ++ "_close", nesting := .closes, element := e.element, hidden := e.isHidden }
  | rule => { kind := "hr", nesting := .stands, element := "hr" }
  | html content => { kind := "html_block", nesting := .stands, content }
  | fence info content => {
      kind := "fence", nesting := .stands, element := "code", info, content }
  | indented content => { kind := "code_block", nesting := .stands, element := "code", content }
  | inline pieces => { kind := "inline", nesting := .stands, pieces }

namespace Token

/-- A line feed follows a tag, unless it opens and running text, a hidden token or its own end
follows. -/
def breaksAfter (token : Token) : Option Token → Bool
  | none => true
  | some next => token.nesting ≠ .opens ||
      !(next.kind = "inline" || next.hidden ||
        next.nesting = .closes && next.element = token.element)

/-- The tag of a token between two others. A hidden token before it is made up for by a line
feed. -/
def tag (previous : Option Token) (token : Token) (next : Option Token) : List Char :=
  if token.hidden then []
  else
    (if token.nesting ≠ .closes && previous.any hidden then ['\n'] else []) ++
      (if token.nesting = .closes then "</".toList else ['<']) ++
      token.element.toList ++ token.attributes ++
      (if token.nesting = .stands then " /".toList else []) ++ ['>'] ++
      (if token.breaksAfter next then ['\n'] else [])

/-- Code as an element. -/
def codeElement (info content : List Char) : List Char :=
  let language := (Text.trim (unescape info)).takeWhile fun c => !Text.isBlank c
  "<pre><code".toList ++
    (if language.isEmpty then [] else Inline.property "class" ("language-".toList ++ language)) ++
    ['>'] ++ Inline.escape content ++ "</code></pre>\n".toList

/-- The markup of a token between two others. -/
def renderBetween (previous : Option Token) (token : Token) (next : Option Token) : List Char :=
  match token.kind with
  | "html_block" => token.content
  | "fence" => codeElement token.info token.content
  | "code_block" => codeElement [] token.content
  | "inline" => Inline.renderAll token.pieces
  | _ => tag previous token next

/-- The markup of tokens behind another one. -/
def renderAfter (previous : Option Token) : List Token → List Char
  | [] => []
  | token :: rest => renderBetween previous token rest.head? ++ renderAfter (some token) rest

/-- The markup of a part of a row. -/
def render (tokens : List Token) : List Char := renderAfter none tokens

end Token

end CodeHighlight.Markdown
