import CodeHighlight.Markdown.Block.Definition
import CodeHighlight.Markdown.Block.Table

/-!
# Reading blocks

Blocks are read line by line. At the beginning of a block the kinds of blocks are tried in a fixed
order, and a paragraph is what nothing else is. Quotations and list items are read in turn as blocks
of what is left of their lines. How deep enclosures go is limited; the lines of one that lies deeper
hold nothing.

A reader takes the lines of its container that are left and says how many of them it used.
-/

namespace CodeHighlight.Markdown

/-- Why a source is not read. -/
inductive SourceFault where
  /-- The text ends with an empty line of a container directly behind a table. -/
  | endBehindTable
deriving Repr, DecidableEq

/-- The wording of a fault. -/
def SourceFault.message : SourceFault → String
  | .endBehindTable => "string index out of range"

namespace BlockReader

/-- A reader that collects definitions; the first one of a label counts. -/
abbrev Reader := StateT References (Except SourceFault)

/-- Tokens of blocks before their running text is read. -/
abbrev RawTokens := List (BlockToken (List Char))

/-- Blocks that were read. -/
structure Blocks where
  tokens : RawTokens
  /-- How many lines they took. -/
  used : Nat
  /-- No empty line stands between them. -/
  tight : Bool

/-- The deepest nesting of enclosures. -/
def levelLimit : Nat := 20

/-- A list begins at the line. -/
def startsList (f : Frame) (inParagraph : Bool) (line : Line) : Bool :=
  (f.listMarker? inParagraph line).isSome

/-- The line ends what goes on before it, though no empty line does. -/
def interrupts (f : Frame) (ongoing : Ongoing) (line : Line) (rest : List Line) : Bool :=
  let common := (f.fence? line).isSome || f.startsQuote line || f.isRule line
  let wide := common || startsList f (ongoing = .paragraph) line ||
    (f.html? line).any (·.interrupts) || (f.heading? line).isSome
  match ongoing with
  | .list => common
  | .quote => wide
  | .paragraph | .definition => wide || (Table.head? f line rest).isSome

/-- The line continues a paragraph: it is not empty, and it is indented, or only goes on, or begins
nothing else. -/
def goesOn (f : Frame) (ongoing : Ongoing) (line : Line) (rest : List Line) : Bool :=
  !line.isEmpty && (f.isCode line || line.indent < 0 || !interrupts f ongoing line rest)

/-- The lines at the front that continue a paragraph or a definition. -/
def continuation (f : Frame) (ongoing : Ongoing) : List Line → List Line
  | [] => []
  | line :: rest => if goesOn f ongoing line rest then line :: continuation f ongoing rest else []

/-- The lines of indented code at the front; empty lines at its end do not belong to it. -/
def codeLength (f : Frame) : List Line → Nat
  | [] => 0
  | line :: rest =>
    let more := codeLength f rest
    if line.isEmpty then (if more = 0 then 0 else more + 1)
    else if f.isCode line then more + 1
    else 0

/-- Indented code. -/
def code? (f : Frame) (line : Line) (rest : List Line) : Option (RawTokens × Nat) :=
  if f.isCode line then
    let length := codeLength f rest
    some ([.indented (Line.cutInner (4 + f.edge) (line :: rest.take length) ++ ['\n'])], length + 1)
  else none

/-- The lines of code between fences, and whether a fence closes it. -/
def fencedLength (f : Frame) (fence : Fence) : List Line → Nat × Bool
  | [] => (0, false)
  | line :: rest =>
    let more (_ : Unit) : Nat × Bool :=
      let (length, closed) := fencedLength f fence rest
      (length + 1, closed)
    if line.isEmpty then (if line.ended then more () else (0, false))
    else if line.indent < f.edge then (0, false)
    else
      let run := (line.body.takeWhile (· = fence.marker)).length
      if f.isCode line || run < fence.length || !(line.body.drop run).all isSpace then more ()
      else (0, true)

/-- Code between fences. -/
def fenced? (f : Frame) (line : Line) (rest : List Line) : Option (RawTokens × Nat) :=
  (f.fence? line).map fun fence =>
    let (length, closed) := fencedLength f fence rest
    ([.fence fence.info (Line.cutAll line.indent.toNat (rest.take length))],
      length + if closed then 2 else 1)

/-- What is left of a line of a quotation without its mark, and whether that is empty. -/
def unquote (line : Line) : Line × Bool :=
  let indent := line.indent.toNat
  let behind := line.body.drop 1
  let (spaced, dropped, held) := match behind with
    | ' ' :: _ => (1, 1, 0)
    | '\t' :: _ => if (indent + 1 + line.column) % 4 = 3 then (1, 1, 0) else (1, 0, 1)
    | _ => (0, 0, 0)
  let text := behind.drop dropped
  let (columns, count) := leadingSpace (indent + 1 + dropped + line.column + held) text
  (⟨text, count, columns, indent + 1 + spaced, line.ended⟩, count = text.length)

/-- The lines of a quotation. Behind a line with content a paragraph may go on without the mark. -/
def quoted (f : Frame) (lastEmpty : Bool) : List Line → List Line
  | [] => []
  | line :: rest =>
    if line.isEmpty then []
    else if line.body.head? = some '>' && f.edge ≤ line.indent then
      let (inner, empty) := unquote line
      inner :: quoted f empty rest
    else if lastEmpty || interrupts f .quote line rest then []
    -- Below every edge, the line can only go on with the paragraph before it.
    else { line with indent := -1 } :: quoted f lastEmpty rest

/-- A block of markup. -/
def html? (f : Frame) (line : Line) (rest : List Line) : Option (RawTokens × Nat) :=
  (f.html? line).map fun block =>
    let length := if block.endsAt line.body then 0 else inner block rest
    ([.html (Line.cutAll f.edge (line :: rest.take length))], length + 1)
where
  /-- How many further lines belong to the block. -/
  inner (block : Tag.Block) : List Line → Nat
    | [] => 0
    | line :: rest =>
      if line.indent < f.edge then 0
      else if block.endsAt line.body then (if line.body.isEmpty then 0 else 1)
      else inner block rest + 1

/-- The tokens of a heading. -/
def headingTokens (level : Nat) (text : List Char) : RawTokens :=
  [.opening (.heading level), .inline text, .closing (.heading level)]

/-- The level that an underline gives the lines before it. -/
def underline? (f : Frame) (line : Line) : Option Nat :=
  match line.body with
  | c :: rest =>
    if f.edge ≤ line.indent && (c = '-' || c = '=') &&
        (rest.dropWhile (· = c)).all isSpace then some (if c = '=' then 1 else 2)
    else none
  | [] => none

/-- The lines before an underline, and the level that it gives them. -/
def underlined? (f : Frame) : List Line → Option (Nat × Nat)
  | [] => none
  | line :: rest =>
    let more (_ : Unit) : Option (Nat × Nat) :=
      (underlined? f rest).map fun (length, level) => (length + 1, level)
    if line.isEmpty then none
    else if f.isCode line then more ()
    else match underline? f line with
      | some level => some (0, level)
      | none => if goesOn f .paragraph line rest then more () else none

/-- A heading of underlined lines. -/
def underlinedHeading? (f : Frame) (line : Line) (rest : List Line) :
    Option (RawTokens × Nat) :=
  (underlined? f rest).map fun (length, level) =>
    (headingTokens level (Text.trim (Line.cutInner f.edge (line :: rest.take length))), length + 2)

/-- A paragraph. -/
def paragraph (f : Frame) (line : Line) (rest : List Line) : RawTokens × Nat :=
  let lines := line :: continuation f .paragraph rest
  ([.opening (.paragraph false), .inline (Text.trim (Line.cutInner f.edge lines)),
    .closing (.paragraph false)], lines.length)

/-- A definition, and how many lines it takes. -/
def definition? (f : Frame) (line : Line) (rest : List Line) :
    Option (List Char × Reference × Nat) :=
  if f.isCode line || line.body.head? ≠ some '[' then none
  else
    let source (line : Line) : List Char := line.body ++ line.ending
    (Definition.read? (source line) ((continuation f .definition rest).map source)).map
      fun (label, reference, taken) => (label, reference, taken + 1)

/-- The rows of a table below its head; `filled` cells were filled up. -/
def tableRows (f : Frame) (columns : Nat) (filled : Int) :
    List Line → Except SourceFault (List (List (List Char)))
  | [] => return []
  | line :: rest =>
    if line.indent < f.edge || interrupts f .quote line rest then return []
    else if line.isEmpty && !line.ended && !f.isCode line then throw .endBehindTable
    else
      let row := Text.trim line.body
      let cells := Table.cells row
      let filled := filled + (columns - cells.length)
      if row.isEmpty || f.isCode line || Table.fillLimit < filled then return []
      else return cells :: (← tableRows f columns filled rest)

/-- A table. -/
def table? (f : Frame) (line : Line) (rest : List Line) : Reader (Option (RawTokens × Nat)) :=
  match Table.head? f line rest with
  | none => return none
  | some head => do
    let rows ← liftM (tableRows f head.length 0 (rest.drop 1))
    return some (Table.tokens head rows, rows.length + 2)

/-- The first line of a list item behind its marker, and the column where its content begins. -/
def itemLine (marker : ListMarker) (line : Line) : Line × Nat :=
  let start := line.indent.toNat + marker.width
  let behind := line.body.drop marker.width
  let (columns, count) := leadingSpace (start + line.column) behind
  -- From five columns on the content is indented code, one column behind the marker.
  let width := if count = behind.length || 4 < columns then 1 else columns
  ({ line with skip := line.skip + marker.width + count, indent := start + columns }, start + width)

/-- Records a definition unless its label is defined already. -/
def define (label : List Char) (reference : Reference) : Reader Unit :=
  modify fun refs =>
    if (refs.lookup label).isSome then refs else refs ++ [(label, reference)]

mutual

/-- The blocks of a container. `emptySeen` tells whether an empty line stands before. -/
def blocks (f : Frame) : Nat → Bool → Bool → List Line → Reader Blocks
  | 0, _, tight, lines => return ⟨[], lines.length, tight⟩
  | fuel + 1, emptySeen, tight, lines =>
    let skipped := (lines.takeWhile Line.isEmpty).length
    match lines.drop skipped with
    | [] => return ⟨[], lines.length, tight⟩
    | line :: rest =>
      if line.indent < f.edge then return ⟨[], skipped, tight⟩
      else if levelLimit ≤ f.level then return ⟨[], lines.length, tight⟩
      else do
        let (tokens, used) ← block f fuel line rest
        let here := line :: rest
        -- Settled before the end of this block is looked at: an empty line behind the last block
        -- separates nothing.
        let tight := !emptySeen
        let emptySeen := emptySeen || (here[used - 1]?).any Line.isEmpty
        let (emptySeen, used) :=
          if (here[used]?).any Line.isEmpty then (true, used + 1) else (emptySeen, used)
        let more ← blocks f fuel emptySeen tight (here.drop used)
        return ⟨tokens ++ more.tokens, skipped + used + more.used, more.tight⟩
termination_by structural fuel => fuel

/-- The block that begins at a line, and how many lines it takes. -/
def block (f : Frame) : Nat → Line → List Line → Reader (RawTokens × Nat)
  | 0, line, rest => return paragraph f line rest
  | fuel + 1, line, rest => do
    match ← table? f line rest with
    | some found => return found
    | none =>
    match (code? f line rest).or (fenced? f line rest) with
    | some found => return found
    | none =>
    if f.startsQuote line then
      quote f fuel (quoted f false (line :: rest))
    else if f.isRule line then return ([.rule], 1)
    else match f.listMarker? false line with
    | some marker =>
      let (tokens, used, tight) ← items f fuel marker false true line rest
      let enclosure := match marker.number with
        | some first => Enclosure.numbers first
        | none => .bullets
      let tokens := if tight then tokens.flatMap (fun item =>
          .opening .item :: BlockToken.hideParagraphs 0 item ++ [.closing .item])
        else tokens.flatMap fun item => .opening .item :: item ++ [.closing .item]
      return (.opening enclosure :: tokens ++ [.closing enclosure], used)
    | none =>
    match definition? f line rest with
    | some (label, reference, used) =>
      define label reference
      return ([], used)
    | none =>
    match html? f line rest with
    | some found => return found
    | none =>
    match f.heading? line with
    | some (level, text) => return (headingTokens level text, 1)
    | none => return (underlinedHeading? f line rest).getD (paragraph f line rest)
termination_by structural fuel => fuel

/-- A quotation of lines without their marks. -/
def quote (f : Frame) : Nat → List Line → Reader (RawTokens × Nat)
  | 0, lines => return ([], lines.length)
  | fuel + 1, lines => do
    let inner ← blocks ⟨0, f.listEdge, f.level + 1⟩ fuel false true lines
    return (.opening .quote :: inner.tokens ++ [.closing .quote], inner.used)
termination_by structural fuel => fuel

/-- The items of a list, how many lines they take, and whether the list is tight. -/
def items (f : Frame) : Nat → ListMarker → Bool → Bool → Line → List Line →
    Reader (List RawTokens × Nat × Bool)
  | 0, _, _, tight, _, rest => return ([], rest.length + 1, tight)
  | fuel + 1, marker, emptyEnd, tight, line, rest => do
    let (first, edge) := itemLine marker line
    let inner ←
      if first.isEmpty && rest.head?.all Line.isEmpty then
        pure ⟨[], min 2 (rest.length + 1), true⟩
      else blocks ⟨edge, some f.edge, f.level + 2⟩ fuel false true (first :: rest)
    let tight := tight && inner.tight && !emptyEnd
    let emptyEnd := 1 < inner.used && (rest[inner.used - 2]?).any Line.isEmpty
    match rest.drop (inner.used - 1) with
    | [] => return ([inner.tokens], inner.used, tight)
    | next :: after =>
      let follower := if next.indent < f.edge || f.isCode next || interrupts f .list next after
        then none
        else match marker.number with
          | some _ => ListMarker.ordered? next.body
          | none => ListMarker.bullet? next.body
      match follower with
      | some m =>
        if m.continues marker then
          let (more, used, tight) ← items f fuel m emptyEnd tight next after
          return (inner.tokens :: more, inner.used + used, tight)
        else return ([inner.tokens], inner.used, tight)
      | none => return ([inner.tokens], inner.used, tight)
termination_by structural fuel => fuel

end

/-- The fuel for reading lines: every step takes a line or goes into an enclosure. -/
def readFuel (lines : List Line) : Nat := 4 * lines.length + 4 * levelLimit + 8

end BlockReader

/-- The blocks of lines, with the definitions among them. -/
def BlockToken.ofLines (lines : List Line) :
    Except SourceFault (List (BlockToken (List Char)) × References) := do
  let (found, refs) ←
    (BlockReader.blocks {} (BlockReader.readFuel lines) false true lines).run []
  return (found.tokens, refs)

end CodeHighlight.Markdown
