import CodeHighlight.Lexer.Basic

/-!
# Lexer for patches

Each line of a patch is one token whose kind follows from its first characters, and the line feed
is another. A last line without a line feed is no line.
-/

namespace CodeHighlight.Lexer.Diff

open Pattern

/-- The only state. -/
inductive State where
  | lines

/-- The rest of a line. -/
def tail : Pattern := many dot

/-- A line that begins with `head` is a token of one kind. -/
def line (head : Pattern) (kind : TokenKind) : Rule State :=
  .parts [(head, kind), (char '\n', .whitespace)] .stay

/-- A line number or a range of two. -/
def lineRange : Pattern := many1 digit ++ maybe (char ',' ++ many1 digit)

/-- The rules for a line. -/
def rules : List (Rule State) := [
  .parts [(char ' ', .whitespace), (tail, .text), (char '\n', .whitespace)] .stay,
  line ((char '!' ++ tail) <|> text "---") (.sub .generic "Strong"),
  line ((text "< " <|> char '-') ++ tail) (.sub .generic "Deleted"),
  line ((text "> " <|> char '+') ++ tail) (.sub .generic "Inserted"),
  line ((char '@' ++ tail) <|>
    (digit ++ maybe (char ',' ++ many1 digit) ++ among "acd" ++ lineRange))
    (.sub .generic "Subheading"),
  line (((among "Ii" ++ text "ndex") <|> text "diff") ++ tail) (.sub .generic "Heading"),
  line (char '=' ++ tail) (.sub .generic "Heading"),
  line tail .text]

/-- The grammar of patches. -/
def grammar : Grammar State := ⟨.lines, fun _ => rules⟩

end CodeHighlight.Lexer.Diff

namespace CodeHighlight.Lexer

/-- The lexer for patches. -/
def diff : Lexer := ofGrammar "DiffLexer" "Diff" ["diff", "udiff"] Diff.grammar

end CodeHighlight.Lexer
