import CodeHighlight.Document.Store
import CodeHighlight.Text.Blank

/-!
# Languages of a document

The language of a code block is its tag without blanks around it; a block without a tag is plain
text. The languages of a document are listed once each, in document order, and plain text needs no
grammar.
-/

namespace CodeHighlight.Language

/-- The tag of plain text. -/
def plainText : String := "text"

/-- The tag that a block's language stands for. -/
def normalize (tag : Option String) : String :=
  let trimmed := Text.trimmed (tag.getD "")
  if trimmed = "" then plainText else trimmed

/-- Each value once, at the place of its first occurrence. -/
def distinct {α : Type} [BEq α] (xs : List α) : List α :=
  go [] xs
where
  /-- Walks on with the values already seen. -/
  go (seen : List α) : List α → List α
    | [] => []
    | x :: rest => if seen.contains x then go seen rest else x :: go (x :: seen) rest

/-- The languages of the code blocks below a node, plain text apart. -/
def collect (s : Store) (root : NodeId) : List String :=
  distinct (((s.visitsOf Node.codeKind root).map fun v => normalize (s.get v.node).language).filter
    (· ≠ plainText))

end CodeHighlight.Language
