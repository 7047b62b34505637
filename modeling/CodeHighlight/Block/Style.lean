import CodeHighlight.Block.Line
import CodeHighlight.Theme

/-!
# Style sheet of a block

The rules of a block apply to the element that carries its label. A rule for marked lines is written
only if some line carries the mark; the rules for tokens follow in the order of their keys.
-/

namespace CodeHighlight.Block

/-- The selector of the block's element. -/
def scope (label : String) : String := "pre[data-fencelight=\"" ++ label ++ "\"]"

/-- Some line carries the mark. -/
def carries (lines : List CodeLine) (mark : LineMark) : Bool :=
  lines.any fun line => line.marks.contains mark

/-- The rules for the lines of a block, those without use left out. -/
def lineRules (theme : Theme) (label : String) (lines : List CodeLine) : List String :=
  let scope := scope label
  (if carries lines .highlighted then
    [scope ++ " .line.highlighted \x7b background-color: " ++ theme.highlight ++ "; \x7d"]
    else []) ++
  (if carries lines .diff then
    [scope ++ " .line.diff.add \x7b background-color: rgba(46, 160, 67, 0.2); \x7d",
      scope ++ " .line.diff.remove \x7b background-color: rgba(248, 81, 73, 0.2); \x7d"] else []) ++
  (if carries lines .blurred then
    [scope ++ " .line.blurred \x7b opacity: 0.5; filter: blur(0.5px); \x7d"] else []) ++
  (if lines.any fun line => line.number.isSome then
    [scope ++ " .line-number \x7b display: inline-block; min-width: 2.5em; margin-right: 1em; "
      ++ "text-align: right; user-select: none; color: " ++ theme.lineNumber ++ "; \x7d"] else [])

/-- The name under which the ranges of a key are registered. -/
def rangeName (label key : String) : String := label ++ "-" ++ key

/-- The rule for the ranges of a key. -/
def tokenRule (theme : Theme) (label key : String) : String :=
  "::highlight(" ++ rangeName label key ++ ") \x7b " ++ theme.rule key ++ " \x7d"

/-- The keys that the theme colours. -/
def styledKeys (theme : Theme) (keys : List String) : List String :=
  keys.filter fun key => theme.rule key ≠ ""

/-- The style sheet of a block. -/
def style (theme : Theme) (label : String) (lines : List CodeLine) (keys : List String) : String :=
  let rules := (scope label ++ " \x7b " ++ theme.container ++ " \x7d") ::
    (lineRules theme label lines ++ (styledKeys theme keys).map (tokenRule theme label))
  "<style>\n" ++ String.intercalate "\n" rules ++ "\n</style>"

end CodeHighlight.Block
