import CodeHighlight.Pattern

/-!
# Tags inside Markdown

A tag, a comment, a declaration or an instruction is passed on as it is. Inside running text it is
recognized as a whole. A block of markup is recognized by the beginning of its first line and goes
on up to a line that ends it, which depends on how it begins.
-/

namespace CodeHighlight.Markdown.Tag

open Pattern

/-- An ASCII letter. -/
def letter : Pattern := one Char.isAlpha

/-- The name of a tag. -/
def name : Pattern := letter ++ many (one fun c => c.isAlphanum || c = '-')

/-- The name of an attribute. -/
def attributeName : Pattern :=
  one (fun c => c.isAlpha || c = '_' || c = ':') ++
    many (one fun c => c.isAlphanum || c = ':' || c = '.' || c = '_' || c = '-')

/-- A character of a value without quotation marks. -/
def isBareChar (c : Char) : Bool :=
  0x20 < c.toNat && !(['"', '\'', '=', '<', '>', Char.ofNat 0x60].contains c)

/-- The value of an attribute. -/
def attributeValue : Pattern :=
  many1 (one isBareChar) <|> (char '\'' ++ many (notAmong "'") ++ char '\'') <|>
    (char '"' ++ many (notAmong "\"") ++ char '"')

/-- An attribute with the blanks before it. -/
def property : Pattern :=
  many1 blank ++ attributeName ++ maybe (many blank ++ char '=' ++ many blank ++ attributeValue)

/-- An opening tag. -/
def opening : Pattern :=
  char '<' ++ name ++ many property ++ many blank ++ maybe (char '/') ++ char '>'

/-- A closing tag. -/
def closing : Pattern := Pattern.text "</" ++ name ++ many blank ++ char '>'

/-- A comment. -/
def comment : Pattern :=
  (Pattern.text "<!--" ++ maybe (char '-') ++ char '>') <|>
  (Pattern.text "<!--" ++
    many (notAmong "-" <|> (char '-' ++ notAmong "-") <|> (Pattern.text "--" ++ notAmong ">")) ++
    Pattern.text "-->")

/-- An instruction to a processor. -/
def instruction : Pattern := Pattern.text "<?" ++ few anything ++ Pattern.text "?>"

/-- A declaration. -/
def declaration : Pattern := Pattern.text "<!" ++ letter ++ many (notAmong ">") ++ char '>'

/-- A section of raw characters. -/
def rawSection : Pattern := Pattern.text "<![CDATA[" ++ few anything ++ Pattern.text "]]>"

/-- A tag or one of its kin. -/
def any : Pattern := choice [opening, closing, comment, instruction, declaration, rawSection]

/-- A letter without regard to case, those included that only differ from it by history. -/
def sameLetter (c d : Char) : Bool :=
  d.toLower = c || (c = 's' && d = 'ſ') || (c = 'k' && d = 'K') ||
    (c = 'i' && (d = 'İ' || d = 'ı'))

/-- A word in small letters without regard to case. -/
def word (text : String) : Pattern := sequence (text.toList.map fun c => one (sameLetter c))

/-- Elements whose content is no markup. -/
def rawElements : List String := ["script", "pre", "style", "textarea"]

/-- Elements that make a block. -/
def blockElements : List String := [
  "address", "article", "aside", "base", "basefont", "blockquote", "body", "caption", "center",
  "col", "colgroup", "dd", "details", "dialog", "dir", "div", "dl", "dt", "fieldset", "figcaption",
  "figure", "footer", "form", "frame", "frameset", "h1", "h2", "h3", "h4", "h5", "h6", "head",
  "header", "hr", "html", "iframe", "legend", "li", "link", "main", "menu", "menuitem", "nav",
  "noframes", "ol", "optgroup", "option", "p", "param", "search", "section", "summary", "table",
  "tbody", "td", "tfoot", "th", "thead", "title", "tr", "track", "ul"]

/-- How a block of markup begins and ends. -/
structure Block where
  /-- The beginning of its first line. -/
  first : Pattern
  /-- A line that holds this ends the block; without it an empty line does. -/
  last : Option Pattern
  /-- The block may follow a paragraph directly. -/
  interrupts : Bool

/-- The kinds of blocks; the first that fits counts. -/
def blocks : List Block := [
  ⟨char '<' ++ choice (rawElements.map word) ++ ahead (blank <|> char '>' <|> textEnd),
    some (Pattern.text "</" ++ choice (rawElements.map word) ++ char '>'), true⟩,
  ⟨Pattern.text "<!--", some (Pattern.text "-->"), true⟩,
  ⟨Pattern.text "<?", some (Pattern.text "?>"), true⟩,
  ⟨Pattern.text "<!" ++ one Char.isUpper, some (char '>'), true⟩,
  ⟨Pattern.text "<![CDATA[", some (Pattern.text "]]>"), true⟩,
  ⟨char '<' ++ maybe (char '/') ++ choice (blockElements.map word) ++
      ahead (blank <|> (maybe (char '/') ++ char '>') <|> textEnd), none, true⟩,
  ⟨(opening <|> closing) ++ many blank ++ textEnd, none, false⟩]

/-- The kind of block that a line begins. -/
def block? (line : List Char) : Option Block := blocks.find? (·.first.startsText line)

/-- The line ends a block. -/
def Block.endsAt (b : Block) (line : List Char) : Bool :=
  match b.last with
  | some last => last.foundIn line
  | none => line.isEmpty

end CodeHighlight.Markdown.Tag
