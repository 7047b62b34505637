import CodeHighlight.Yaml.Node.Reader
import CodeHighlight.Yaml.Token.Reader
import CodeHighlight.Yaml.Value.Reader

/-!
# Data texts

A data text is read in three steps: tokens, nodes, and their values. A text with
characters that do not print, or with more than one document, is no data.
-/

namespace CodeHighlight.Yaml

/-- A character may stand in a data text. -/
def isAllowed (c : Char) : Bool :=
  c = '\t' || c = '\n' || c = '\r' || c = '\u0085' ||
    (' ' ≤ c && c ≤ '~') || ('\u00A0' ≤ c && c ≤ '\uFFFD') || 0x10000 ≤ c.toNat

/-- The value that a text writes; a text without a document writes none. -/
def load (text : List Char) : Except Fault Value := do
  if !text.all isAllowed then throw .malformed
  match ← Document.ofTokens (Token.ofText text) with
  | none => return .null
  | some document => Value.ofDocument document

end CodeHighlight.Yaml
