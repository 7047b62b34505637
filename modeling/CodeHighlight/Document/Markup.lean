import CodeHighlight.Document.Node
import CodeHighlight.Text.Blank
import CodeHighlight.Text.Escape

/-!
# Documents as markup

A document is written as the row of its segments: a code node as an element, a node with children as
its opening, its children and its closing, and any other node as its value. A segment of a code node
or a leaf ends with a line feed unless it is empty.
-/

namespace CodeHighlight.Node

/-- A text with a line feed at its end; an empty text stays empty. -/
def closeLine (text : List Char) : List Char :=
  if text.isEmpty || text.getLast? = some '\n' then text else text ++ ['\n']

/-- The lines of code as they stand inside the element. -/
def codeText (value : List Char) : List Char :=
  let body := Text.escape .named value
  if body.isEmpty then [] else body ++ ['\n']

/-- The class of the element, for a language that is not blank. -/
def codeClass (language : List Char) : List Char :=
  match Text.trim language with
  | [] => []
  | tag => " class=\"language-".toList ++ Text.escape .named tag ++ ['"']

/-- Code as an element. -/
def codeElement (value language : List Char) : List Char :=
  "<pre><code".toList ++ codeClass language ++ '>' :: codeText value ++ "</code></pre>\n".toList

/-- The characters of a text; a missing one is empty. -/
def characters (text : Option String) : List Char := (text.getD "").toList

mutual

/-- The markup of a node. -/
def markup : Node → List Char
  | ⟨kind, value, language, _, opening, closing, children⟩ =>
    if kind = codeKind then codeElement (characters value) (characters language)
    else match children with
      | some nodes => characters opening ++ markupAll nodes ++ characters closing
      | none => closeLine (characters value)

/-- The markup of nodes one after the other. -/
def markupAll : List Node → List Char
  | [] => []
  | node :: rest => markup node ++ markupAll rest

end

/-- The markup of a node as a string. -/
def render (node : Node) : String := String.ofList node.markup

end CodeHighlight.Node
