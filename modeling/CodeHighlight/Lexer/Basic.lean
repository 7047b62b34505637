import CodeHighlight.Lexer.Grammar
import CodeHighlight.Text.LineBreak

/-!
# Lexers

A lexer turns source text into tokens, or fails. Before it reads, one byte order mark at the front
is dropped and all line breaks become line feeds.
-/

namespace CodeHighlight

/-- A lexer with the names under which it can be asked for. -/
structure Lexer where
  /-- Tells lexers apart. -/
  ident : String
  /-- The title, which may be empty. -/
  title : String
  /-- Declared aliases. -/
  aliases : List String
  /-- The tokens of a text. -/
  tokens : List Char → Except Failure (List Token)

namespace Lexer

/-- The text that a lexer reads. -/
def prepare (source : List Char) : List Char := Text.unifyBreaks (Text.dropMark source)

/-- A lexer made of rules. -/
def ofGrammar {σ : Type} (ident title : String) (aliases : List String) (g : Grammar σ) : Lexer :=
  ⟨ident, title, aliases, fun source => .ok (g.tokens (prepare source))⟩

/-- A lexer that cannot fail. -/
def ofFunction (ident title : String) (aliases : List String)
    (read : List Char → List Token) : Lexer :=
  ⟨ident, title, aliases, fun source => .ok (read (prepare source))⟩

/-- Plain text: the whole source is one token. -/
def plain : Lexer := ofFunction "TextLexer" "Text only" ["text"] fun text => [⟨.text, text⟩]

end Lexer

end CodeHighlight
