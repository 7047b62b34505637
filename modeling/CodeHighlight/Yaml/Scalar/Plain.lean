import CodeHighlight.Yaml.Cursor

/-!
# Plain scalars

A plain scalar is a text without marks around it. It ends before a colon that a blank follows,
before a comment, and in a flow collection before the marks of the collection. It may go on in the
next line if that is indented deeply enough: a line break becomes a space, each empty line a line
feed.
-/

namespace CodeHighlight.Yaml.Plain

/-- The characters at the front that belong to a scalar, up to a blank. -/
def takeRun (flow : Bool) : List Char → List Char
  | [] => []
  | c :: rest =>
    if atGap (c :: rest) then []
    else if c = ':' && (atGap rest || flow && rest.head?.any fun d =>
        ",[]\x7b\x7d".toList.contains d) then []
    else if flow && ",?[]\x7b\x7d".toList.contains c then []
    else c :: takeRun flow rest

/-- What separates two runs. -/
structure Gap where
  /-- The text that it adds to the scalar; nothing if the scalar ends here. -/
  text : List Char
  rest : List Char
  /-- The column behind it, if it holds a line break. -/
  column : Option Nat

/-- The empty lines behind a line break, and the spaces in front of the next run. -/
def takeLines (breaks column : Nat) : List Char → Gap
  | ' ' :: rest => takeLines breaks (column + 1) rest
  | '\n' :: rest =>
    if atDocumentMark rest then ⟨[], rest, some 0⟩ else takeLines (breaks + 1) 0 rest
  | rest => ⟨if breaks = 0 then [' '] else List.replicate breaks '\n', rest, some column⟩

/-- The gap behind a run. -/
def takeGap (text : List Char) : Gap :=
  let spaces := text.takeWhile (· = ' ')
  match dropSpaces text with
  | '\n' :: rest => if atDocumentMark rest then ⟨[], rest, some 0⟩ else takeLines 0 0 rest
  | rest => ⟨spaces, rest, none⟩

/-- What was read of a scalar. -/
structure Reading where
  text : List Char
  rest : List Char
  /-- A line break stands behind the scalar. -/
  broken : Bool

/-- Reads on behind a run; the scalar goes on where a further run stands. -/
def readOn (flow : Bool) (indent : Int) : Nat → List Char → Reading
  | 0, text => ⟨[], text, false⟩
  | fuel + 1, text =>
    let gap := takeGap text
    let shallow := !flow && gap.column.any fun column => (column : Int) < indent
    let run := if gap.text.isEmpty || gap.rest.head? = some '#' || shallow then []
      else takeRun flow gap.rest
    if run.isEmpty then ⟨[], gap.rest, gap.column.isSome⟩
    else
      let more := readOn flow indent fuel (gap.rest.drop run.length)
      ⟨gap.text ++ run ++ more.text, more.rest, more.broken⟩

/-- Reads a plain scalar. -/
def read (flow : Bool) (indent : Int) (text : List Char) : Reading :=
  let run := takeRun flow text
  let more := readOn flow indent text.length (text.drop run.length)
  ⟨run ++ more.text, more.rest, more.broken⟩

end CodeHighlight.Yaml.Plain
