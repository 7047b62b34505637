import CodeHighlight.Directives
import CodeHighlight.Text.LineBreak

/-!
# Lines of a block

The source of a block, its breaks unified and one byte order mark dropped, is cut at line feeds.
The directives say which marks a line carries and which number it shows.
-/

namespace CodeHighlight

/-- A mark on a line. -/
inductive LineMark where
  | highlighted
  | diff
  | added
  | removed
  | blurred
deriving Repr, DecidableEq

/-- The class that shows a mark. -/
def LineMark.className : LineMark → String
  | .highlighted => "highlighted"
  | .diff => "diff"
  | .added => "add"
  | .removed => "remove"
  | .blurred => "blurred"

/-- A line of a block. -/
structure CodeLine where
  text : List Char
  /-- The number that is shown. -/
  number : Option Int
  marks : List LineMark
deriving Repr, DecidableEq

namespace CodeLine

/-- The source as it is shown and read: line feeds only, without a byte order mark at the front. -/
def normalize (code : List Char) : List Char := Text.dropMark (Text.unifyBreaks code)

/-- A line is a member of a set; an absent set has no member. -/
def marked (lines : Option LineSet) (line : Int) : Bool := lines.any (·.contains line)

/-- The marks of a line, counted from one. Focus blurs the lines outside, unless it names none. -/
def marksOf (d : Directives) (line : Int) : List LineMark :=
  let added := marked (d.diff.bind (·.added)) line
  let removed := marked (d.diff.bind (·.removed)) line
  (if marked d.highlightedLines line then [.highlighted] else []) ++
  (if added || removed then [.diff] else []) ++
  (if added then [.added] else []) ++
  (if removed then [.removed] else []) ++
  (if d.focus.any fun s => !s.isEmpty && !s.contains line then [.blurred] else [])

/-- The line with a text at an index, which counts from zero. -/
def ofText (d : Directives) (text : List Char) (index : Nat) : CodeLine where
  text := text
  number := d.numbering.map (· + index)
  marks := marksOf d (index + 1)

/-- The lines of a normalized source. -/
def ofSource (source : List Char) (d : Directives) : List CodeLine :=
  (Text.splitAt '\n' source).zipIdx.map fun (text, index) => CodeLine.ofText d text index

end CodeLine

end CodeHighlight
