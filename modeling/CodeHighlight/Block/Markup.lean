import CodeHighlight.Block.Line
import CodeHighlight.Text.Escape
import CodeHighlight.Text.Numeral

/-!
# Markup of a block

A block is a preformatted element with one span per line, and a line feed between spans. Label,
language and text are escaped. A numbered line begins with a span of its own for the number; the
last child of a line's span is its text, to which the ranges refer.
-/

namespace CodeHighlight.Block

/-- A text inside the markup. -/
def inMarkup (text : List Char) : List Char := Text.escape .decimal text

/-- The classes of a line. -/
def classes (line : CodeLine) : List Char :=
  Text.joinWith [' '] ("line".toList :: line.marks.map fun mark => mark.className.toList)

/-- The span for a line's number. -/
def numberSpan : Option Int → Except Text.NumeralFault (List Char)
  | none => .ok []
  | some n => do
    let number ← Text.writeInteger n
    return "<span class=\"line-number\">".toList ++ number.toList ++ "</span>".toList

/-- The opening tag of a line's span. -/
def lineTag (label : List Char) (index : Nat) (line : CodeLine) : List Char :=
  "<span id=\"".toList ++ inMarkup label ++ "-L".toList ++ (toString index).toList ++
    "\" class=\"".toList ++ classes line ++ "\">".toList

/-- The span of a line. -/
def lineSpan (label : List Char) (index : Nat) (line : CodeLine) :
    Except Text.NumeralFault (List Char) := do
  let number ← numberSpan line.number
  return lineTag label index line ++ number ++ inMarkup line.text ++ "</span>".toList

/-- The opening tags of a block. -/
def blockTags (label language : List Char) : List Char :=
  "<pre class=\"fencelight\" data-fencelight=\"".toList ++ inMarkup label ++
    "\" data-language=\"".toList ++ inMarkup language ++ "\"><code id=\"".toList ++
    inMarkup label ++ "\">".toList

/-- The markup of a block. -/
def markup (label language : List Char) (lines : List CodeLine) :
    Except Text.NumeralFault (List Char) := do
  let spans ← lines.zipIdx.mapM fun (line, index) => lineSpan label index line
  return blockTags label language ++ Text.joinWith ['\n'] spans ++ "</code></pre>".toList

end CodeHighlight.Block
