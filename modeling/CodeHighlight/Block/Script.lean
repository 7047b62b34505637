import CodeHighlight.Block.Range
import CodeHighlight.Block.Style
import CodeHighlight.Json

/-!
# Script of a block

The script registers the ranges of every coloured key with the browser. It holds the label and the
ranges as JSON. In the ranges the slash of a closing tag is written with a backslash before it.
-/

namespace CodeHighlight.Block

/-- A range as a JSON value. -/
def rangeValue (r : LineRange) : Json := .arr [.int r.line, .int r.first, .int r.last]

/-- The ranges of the coloured keys as a JSON value, each under its registered name. -/
def rangesValue (theme : Theme) (label : String) (ranges : RangeGroups) : Json :=
  .obj ((ranges.groups.filter fun group => theme.rule group.1 ≠ "").map fun group =>
    (rangeName label group.1, .arr (group.2.map rangeValue)))

/-- Writes a backslash between a less-than sign and a slash. -/
def guardClosing : List Char → List Char
  | [] => []
  | '<' :: '/' :: rest => '<' :: '\\' :: '/' :: guardClosing rest
  | c :: rest => c :: guardClosing rest

/-- The script up to the label. -/
def scriptHead : String :=
  "<script>\n(() => \x7b\n" ++
  "  if (typeof CSS === \"undefined\" || !CSS.highlights) return;\n" ++
  "  const code = document.getElementById("

/-- The script between the label and the ranges. -/
def scriptMiddle : String :=
  ");\n  if (!code) return;\n" ++
  "  const lines = code.querySelectorAll(\":scope > .line\");\n" ++
  "  const tokens = "

/-- The script behind the ranges. -/
def scriptTail : String :=
  ";\n  for (const [name, ranges] of Object.entries(tokens)) \x7b\n" ++
  "    const highlight = new Highlight();\n" ++
  "    for (const [line, start, end] of ranges) \x7b\n" ++
  "      const text = lines[line] ? lines[line].lastChild : null;\n" ++
  "      if (!text || text.nodeType !== Node.TEXT_NODE) continue;\n" ++
  "      const range = new Range();\n" ++
  "      range.setStart(text, start);\n" ++
  "      range.setEnd(text, end);\n" ++
  "      highlight.add(range);\n" ++
  "    \x7d\n" ++
  "    CSS.highlights.set(name, highlight);\n" ++
  "  \x7d\n\x7d)();\n</script>"

/-- The script of a block. -/
def script (theme : Theme) (label : String) (ranges : RangeGroups) : List Char :=
  scriptHead.toList ++ Json.string label ++ scriptMiddle.toList ++
    guardClosing (rangesValue theme label ranges).compact ++ scriptTail.toList

end CodeHighlight.Block
