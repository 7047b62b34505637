import CodeHighlight.Document.Node
import CodeHighlight.Fault
import CodeHighlight.Markdown.Block.Reader
import CodeHighlight.Markdown.Row
import CodeHighlight.Markdown.RunningText
import CodeHighlight.Text.LineBreak

/-!
# Documents from Markdown

Quotations, lists and list items become nodes with children, so that the code inside them can be
reached; code becomes a code node; every other block becomes a leaf that holds its markup. The words
behind an opening fence are the language and the info of the code.
-/

namespace CodeHighlight.Markdown

/-- Why a source gives no document. -/
inductive TreeFault where
  | source (fault : SourceFault)
  /-- Nothing closes an opening token. -/
  | unbalanced (token : String)
deriving Repr, DecidableEq

/-- The failure that a fault raises. -/
def TreeFault.failure : TreeFault → Failure
  | .source fault =>
    .because .conversion ("Failed to parse Markdown source: " ++ fault.message)
      (.plain .badIndex fault.message)
  | .unbalanced token => .plain .conversion ("Unbalanced '" ++ token ++ "' token")

/-- A source with line feeds only and without the null character. -/
def normalizeSource (source : List Char) : List Char :=
  (Text.unifyBreaks source).map fun c => if c = '\x00' then '\uFFFD' else c

/-- The first word of an info, if there is one, and what follows it, unless that is empty. -/
def splitInfo (info : List Char) : Option String × Option String :=
  let words := Text.trim info
  let first := words.takeWhile fun c => !Text.isBlank c
  let rest := Text.trim (words.drop first.length)
  let filled (text : List Char) : Option String :=
    if text.isEmpty then none else some (String.ofList text)
  (filled first, filled rest)

/-- Code without the line feed at its end. -/
def codeBody (content : List Char) : List Char :=
  if content.getLast? = some '\n' then content.dropLast else content

/-- Kinds of tokens that become nodes with children, and the kinds of these nodes. -/
def containerKinds : List (String × String) :=
  [("blockquote_open", "blockquote"), ("bullet_list_open", "list"), ("ordered_list_open", "list"),
    ("list_item_open", "listItem")]

/-- Kinds of tokens whose leaves have a kind of their own. -/
def leafKinds : List (String × String) :=
  [("paragraph_open", "paragraph"), ("heading_open", "heading"), ("hr", "thematicBreak"),
    ("html_block", Node.htmlKind), ("table_open", "table")]

/-- A kind without the ending of kinds that open. -/
def withoutOpen (kind : String) : String :=
  let ending := "_open".toList
  if ending.isSuffixOf kind.toList then
    String.ofList (kind.toList.take (kind.toList.length - ending.length))
  else kind

namespace Token

/-- The token is code, fenced or indented. -/
def isCode (token : Token) : Bool := token.kind = "fence" || token.kind = "code_block"

/-- The kind of the node with children that the token begins. -/
def container? (token : Token) : Option String := containerKinds.lookup token.kind

/-- The kind of the leaf that the token begins. -/
def leafKind (token : Token) : String :=
  (leafKinds.lookup token.kind).getD (withoutOpen token.kind)

/-- The node for code. -/
def codeNode (token : Token) : Node :=
  let body := String.ofList (codeBody token.content)
  if token.kind = "fence" then
    let (language, info) := splitInfo token.info
    .code body language info
  else .code body

variable (render : List Token → List Char)

/-- A node with children between two tokens. -/
def containerNode (kind : String) (first last : Token) (children : List Node) : Node where
  kind := kind
  opening := some (String.ofList (render [first]))
  closing := some (String.ofList (render [last]))
  children := some children

/-- A leaf that holds the markup of a part. -/
def leafNode (first : Token) (part : List Token) : Node where
  kind := first.leafKind
  value := some (String.ofList (render part))

/-- The nodes for a row of tokens whose parts are written by `render`. The kind of its first token
tells what becomes of a part, whatever else the part holds. -/
def nodes (row : List Token) : Except TreeFault (List Node) :=
  match row with
  | [] => .ok []
  | token :: rest =>
    match h : part? 0 (token :: rest) with
    | none => .error (.unbalanced token.kind)
    | some (part, after) =>
      have := length_part? h
      if token.isCode then return token.codeNode :: (← nodes after)
      else match token.container? with
        | some kind => do
          let children ← nodes part.tail.dropLast
          return containerNode render kind token (part.getLastD token) children ::
            (← nodes after)
        | none => return leafNode render token part :: (← nodes after)
termination_by row.length
decreasing_by all_goals first | exact this.1 | exact this.2

end Token

/-- The document of a source. -/
def parse (source : String) : Except TreeFault Node := do
  let lines := Line.ofSource (normalizeSource source.toList)
  let (row, references) ← (BlockToken.ofLines lines).mapError .source
  let nodes ← Token.nodes Token.render
    (row.map fun block => (block.map (Inline.parse references)).token)
  return .root nodes

end CodeHighlight.Markdown
