import Std.Data.HashMap
import CodeHighlight.Markdown.Emphasis
import CodeHighlight.Markdown.Line
import CodeHighlight.Markdown.Tag
import CodeHighlight.Markdown.Target
import CodeHighlight.Pattern

/-!
# Reading running text

The text is read from left to right. At each place a construct is recognized by its first character
or the character stands for itself. The text of a link is found by passing over constructs, which
may hold links in turn; how deep that goes is limited, and where constructs end is remembered.
-/

namespace CodeHighlight

/-- The place a number of characters further on, or the end. -/
def Place.advance (p : Place) : Nat → Place
  | 0 => p
  | n + 1 =>
    match p.rest with
    | [] => p
    | c :: rest => (p.step c rest).advance n

/-- The place from which on `rest` is left of the text. -/
def Place.upTo (p : Place) (rest : List Char) : Place := p.advance (p.rest.length - rest.length)

namespace Markdown.RunningText

/-- The deepest nesting of constructs. -/
def depthLimit : Nat := 20

/-- What is remembered about the text. -/
structure Memo where
  /-- Where the construct at a place ends. -/
  ends : Std.HashMap Nat Nat := {}
  /-- The last run of ticks of each length. -/
  ticks : List (Nat × Nat) := []
  /-- All runs of ticks up to the end are known. -/
  ticksKnown : Bool := false

/-- A construct at a place. -/
inductive Construct where
  /-- Characters that stand for themselves. -/
  | plain (text : List Char)
  /-- A line feed with the blanks behind it. -/
  | lineFeed
  /-- A construct without text to be read. -/
  | piece (piece : Inline)
  /-- A link; its text begins at a place whose text ends with it. -/
  | link (inner : Place) (address : List Char) (title : Option (List Char))
  | image (text : List Char) (address : List Char) (title : Option (List Char))

/-- Characters that may begin a construct. -/
def isSignal (c : Char) : Bool :=
  "\n!#$%&*+-:<=>@[\\]^_\x7b\x7d~".toList.contains c || c = Char.ofNat 0x60

/-- The tick that encloses code. -/
def tick : Char := Char.ofNat 0x60

/-- The place of the next run of ticks of a length, and the runs of other lengths before it. -/
def closingTicks (length : Nat) (known : List (Nat × Nat)) :
    List Char → Nat → Nat → Option Nat × List (Nat × Nat)
  | [], offset, run =>
    if run = 0 then (none, known)
    else if run = length then (some (offset - run), known)
    else (none, (run, offset - run) :: known)
  | c :: rest, offset, run =>
    if c = tick then closingTicks length known rest (offset + 1) (run + 1)
    else if run = 0 then closingTicks length known rest (offset + 1) 0
    else if run = length then (some (offset - run), known)
    else closingTicks length ((run, offset - run) :: known) rest (offset + 1) 0

/-- The content of code: line feeds are blanks, and one blank at each end is dropped. -/
def codeContent (text : List Char) : List Char :=
  let text := text.map fun c => if c = '\n' then ' ' else c
  if text.head? = some ' ' ∧ text.getLast? = some ' ' ∧ ¬(Text.trim text).isEmpty then
    text.tail.dropLast
  else text

/-- Code between runs of ticks, or a run that nothing closes. -/
def codeSpan (p : Place) : StateM Memo (Construct × Place) := do
  let memo ← get
  let run := p.rest.takeWhile (· = tick)
  let after := p.advance run.length
  -- With all runs known, nothing closes this one unless one of its length lies further on.
  if memo.ticksKnown ∧ (memo.ticks.lookup run.length).getD 0 ≤ p.offset then
    return (.plain run, after)
  let (found, ticks) := closingTicks run.length memo.ticks after.rest after.offset 0
  match found with
  | some close =>
    set { memo with ticks }
    let content := after.rest.take (close - after.offset)
    return (.piece (.code (codeContent content)),
      after.advance (close - after.offset + run.length))
  | none =>
    set { memo with ticks, ticksKnown := true }
    return (.plain run, after)

/-- A backslash with the character behind it. -/
def escaped? (p : Place) : Option (Construct × Place) :=
  match p.rest with
  | _ :: '\n' :: rest => some (.piece .hardBreak, p.upTo (rest.dropWhile isSpace))
  | _ :: c :: _ =>
    some (.piece (.special (if Text.isAsciiPunctuation c then [c] else ['\\', c])), p.advance 2)
  | _ => none

/-- An address as a link: a protocol, a colon and no blanks. -/
def addressPattern : Pattern :=
  Tag.letter ++ .between (.one fun c => c.isAlphanum || c = '+' || c = '.' || c = '-') 1 31 ++
    .char ':' ++ .many (.one fun c => c ≠ '<' && c ≠ '>' && 0x20 < c.toNat) ++ .textEnd

/-- A label of the host of a mail address. -/
def mailLabel : Pattern :=
  .one Char.isAlphanum ++
    .maybe (.between (.one fun c => c.isAlphanum || c = '-') 0 61 ++ .one Char.isAlphanum)

/-- A mail address as a link. -/
def mailPattern : Pattern :=
  .many1 (.one fun c =>
      c.isAlphanum || ".!#$%&'*+/=?^_\x7b|\x7d~-".toList.contains c || c = tick) ++
    .char '@' ++ mailLabel ++ .many (.char '.' ++ mailLabel) ++ .textEnd

/-- An address in angle brackets. -/
def bracketedLink? (p : Place) : Option (Construct × Place) :=
  let address := p.rest.tail.takeWhile fun c => c ≠ '<' && c ≠ '>'
  match p.rest.drop (address.length + 1) with
  | '>' :: rest =>
    let link (full : List Char) : Option (Construct × Place) :=
      let target := Target.normalize full
      if Target.isAllowed target then
        some (.piece (.link target none [.text (Target.readable address)]), p.upTo rest)
      else none
    if addressPattern.startsText address then link address
    else if mailPattern.startsText address then link ("mailto:".toList ++ address)
    else none
  | _ => none

/-- A tag. -/
def tag? (p : Place) : Option (Construct × Place) :=
  if p.rest.length < 3 then none
  else (Tag.any.matchAt? p).map fun q => (.piece (.html (p.textUpTo q)), { q with marks := [] })

/-- A character reference. -/
def reference? (p : Place) : Option (Construct × Place) :=
  (Entity.inText? p.rest.tail).map fun (text, length) =>
    (.piece (.special text), p.advance (length + 1))

/-- What stands behind the text of a link. -/
inductive TargetScan where
  /-- An address and a title up to the closing parenthesis. -/
  | found (address : List Char) (title : Option (List Char)) (rest : List Char)
  /-- No target; another label may stand at `rest`. -/
  | other (rest : List Char)
  /-- The text ends inside. -/
  | ended
deriving Repr

/-- A blank between the parts of a target. -/
def isTargetGap (c : Char) : Bool := isSpace c || c = '\n'

/-- Reads an address and a title behind an opening parenthesis. -/
def scanTarget (text : List Char) : TargetScan :=
  match text.dropWhile isTargetGap with
  | [] => .ended
  | front =>
    let finish (address : List Char) (title : Option (List Char)) : List Char → TargetScan
      | ')' :: rest => .found address title rest
      | rest => .other (rest.drop 1)
    match Target.destination? front with
    | none => finish [] none front
    | some (address, rest) =>
      let target := Target.normalize address
      if Target.isAllowed target then
        let next := rest.dropWhile isTargetGap
        if next.length < rest.length then
          match Target.title? next with
          | some (title, rest) => finish target (some title) (rest.dropWhile isTargetGap)
          | none => finish target none next
        else finish target none next
      else finish [] none front

mutual

/-- The place of the bracket that closes a label; `depth` brackets are open. -/
def labelEnd? (refs : References) (single : Bool) (level : Nat) :
    Nat → Nat → Place → StateM Memo (Option Place)
  | 0, _, _ => return none
  | fuel + 1, depth, p =>
    match p.rest with
    | [] => return none
    | c :: _ =>
      if c = ']' ∧ depth = 1 then return some p
      else do
        let q ← skip refs level fuel p
        if c = '[' then
          -- A bracket passed by itself opens a pair; otherwise a whole link was passed, which the
          -- text of a link cannot hold.
          if q.offset = p.offset + 1 then labelEnd? refs single level fuel (depth + 1) q
          else if single then return none
          else labelEnd? refs single level fuel depth q
        else labelEnd? refs single level fuel (if c = ']' then depth - 1 else depth) q
termination_by structural fuel _ _ => fuel

/-- The place behind the construct or the character at a place. -/
def skip (refs : References) (level : Nat) : Nat → Place → StateM Memo Place
  | 0, p => return p.advance p.rest.length
  | fuel + 1, p => do
    match (← get).ends[p.offset]? with
    | some last => return p.advance (last - p.offset)
    | none =>
      let q ← if level < depthLimit then do
          match ← construct? refs (level + 1) fuel p with
          | some (_, q) => pure q
          | none => pure (p.advance 1)
        -- Too deep for constructs: nothing behind this place closes a label any more.
        else pure (p.advance p.rest.length)
      modify fun memo => { memo with ends := memo.ends.insert p.offset q.offset }
      return q
termination_by structural fuel _ => fuel

/-- The definition that stands for a link: that of the label at `next`, or that of its text. -/
def defined? (refs : References) (level : Nat) :
    Nat → Place → Place → Place → StateM Memo (Option (Reference × Place))
  | 0, _, _, _ => return none
  | fuel + 1, inner, close, next =>
    if refs.isEmpty then return none
    else do
      let labelled ← match next.rest with
        | '[' :: _ => do
          let start := next.advance 1
          match ← labelEnd? refs false level fuel 1 start with
          | some last => pure (some (start.textUpTo last, last.advance 1))
          | none => pure none
        | _ => pure none
      let own := inner.textUpTo close
      let (label, after) := match labelled with
        | some ([], after) => (own, after)
        | some (label, after) => (label, after)
        | none => (own, close.advance 1)
      match refs.lookup (Reference.normalizeLabel label) with
      | some reference => return some (reference, after)
      | none => return none
termination_by structural fuel _ _ _ => fuel

/-- A link; the place lies at its opening bracket. -/
def link? (refs : References) (level : Nat) :
    Nat → Place → StateM Memo (Option (Construct × Place))
  | 0, _ => return none
  | fuel + 1, p => do
    let inner := p.advance 1
    match ← labelEnd? refs true level fuel 1 inner with
    | none => return none
    | some close =>
      let after := close.advance 1
      let text := { inner with rest := inner.textUpTo close }
      let viaLabel (next : Place) : StateM Memo (Option (Construct × Place)) := do
        match ← defined? refs level fuel inner close next with
        | some (r, after) => return some (.link text r.address r.title, after)
        | none => return none
      match after.rest with
      | '(' :: rest =>
        match scanTarget rest with
        | .found address title rest => return some (.link text address title, after.upTo rest)
        | .other rest => viaLabel (after.upTo rest)
        | .ended => return none
      | _ => viaLabel after
termination_by structural fuel _ => fuel

/-- An image; the place lies at its exclamation mark. -/
def image? (refs : References) (level : Nat) :
    Nat → Place → StateM Memo (Option (Construct × Place))
  | 0, _ => return none
  | fuel + 1, p => do
    match p.rest with
    | _ :: '[' :: _ =>
      let inner := p.advance 2
      match ← labelEnd? refs false level fuel 1 inner with
      | none => return none
      | some close =>
        let after := close.advance 1
        let text := inner.textUpTo close
        match after.rest with
        | '(' :: rest =>
          match scanTarget rest with
          | .found address title rest => return some (.image text address title, after.upTo rest)
          | _ => return none
        | _ =>
          match ← defined? refs level fuel inner close after with
          | some (r, after) => return some (.image text r.address r.title, after)
          | none => return none
    | _ => return none
termination_by structural fuel _ => fuel

/-- The construct at a place, and the place behind it. -/
def construct? (refs : References) (level : Nat) :
    Nat → Place → StateM Memo (Option (Construct × Place))
  | 0, _ => return none
  | fuel + 1, p =>
    match p.rest with
    | [] => return none
    | c :: rest =>
      if !isSignal c then
        return some (.plain (p.rest.takeWhile fun d => !isSignal d),
          p.upTo (p.rest.dropWhile fun d => !isSignal d))
      else if c = '\n' then return some (.lineFeed, p.upTo (rest.dropWhile isSpace))
      else if c = '\\' then return escaped? p
      else if c = tick then do return some (← codeSpan p)
      else if c = '[' then link? refs level fuel p
      else if c = '!' then image? refs level fuel p
      else if c = '<' then return (bracketedLink? p).or (tag? p)
      else if c = '&' then return reference? p
      else return none
termination_by structural fuel _ => fuel

end

/-- The pieces of a text read so far. -/
structure Draft where
  pieces : Array Inline := #[]
  marks : Array Delimiter := #[]
  /-- Characters that belong to no piece yet, the last one first. -/
  pending : List Char := []

namespace Draft

/-- Makes a piece of the pending characters. -/
def flush (d : Draft) : Draft :=
  if d.pending.isEmpty then d
  else { d with pieces := d.pieces.push (.text d.pending.reverse), pending := [] }

/-- Appends a piece. -/
def push (d : Draft) (piece : Inline) : Draft :=
  let d := d.flush
  { d with pieces := d.pieces.push piece }

/-- Appends characters that stand for themselves. -/
def plain (d : Draft) (text : List Char) : Draft :=
  { d with pending := text.reverse ++ d.pending }

/-- Appends a line break; two blanks before it make it a hard one. -/
def lineFeed (d : Draft) : Draft :=
  match d.pending with
  | ' ' :: ' ' :: rest => { d with pending := rest.dropWhile (· = ' ') }.push .hardBreak
  | ' ' :: rest => { d with pending := rest }.push .softBreak
  | _ => d.push .softBreak

/-- Appends a run of marks. -/
def run (d : Draft) (p : Place) (marker : Char) : Draft × Place :=
  let length := (p.rest.takeWhile (· = marker)).length
  let after := p.advance length
  let (opens, closes) :=
    Delimiter.roles marker (p.before.head?.getD ' ') (after.rest.head?.getD ' ')
  ((List.range length).foldl (fun d _ =>
    let d := d.push (.text [marker])
    { d with marks := d.marks.push ⟨marker, length, d.pieces.size - 1, opens, closes, none⟩ }) d,
    after)

/-- The finished pieces. -/
def finish (d : Draft) : List Inline :=
  let d := d.flush
  Delimiter.emphasize d.pieces d.marks

end Draft

/-- The fuel for recognizing constructs in a text. -/
def searchFuel (text : List Char) : Nat := 4 * (depthLimit + 2) * (text.length + 4)

/-- Reads on from a place. -/
def read (refs : References) (search : Nat) :
    Nat → Nat → Draft → Place → StateM Memo (List Inline)
  | 0, _, d, p => return (d.plain p.rest).finish
  | fuel + 1, level, d, p =>
    match p.rest with
    | [] => return d.finish
    | c :: _ =>
      if c = '*' ∨ c = '_' then
        let (d, p) := d.run p c
        read refs search fuel level d p
      else do
        match ← construct? refs level search p with
        | none => read refs search fuel level (d.plain [c]) (p.advance 1)
        | some (.plain text, p) => read refs search fuel level (d.plain text) p
        | some (.lineFeed, p) => read refs search fuel level d.lineFeed p
        | some (.piece piece, p) => read refs search fuel level (d.push piece) p
        | some (.link inner address title, p) =>
          let content ← read refs search fuel (level + 1) {} inner
          read refs search fuel level (d.push (.link address title content)) p
        | some (.image text address title, p) =>
          let content := (read refs (searchFuel text) fuel 0 {} (Place.start text) |>.run {}).1
          read refs search fuel level (d.push (.image address title content)) p

end Markdown.RunningText

/-- Reads running text. -/
def Markdown.Inline.parse (refs : Markdown.References) (text : List Char) :
    List Markdown.Inline :=
  (Markdown.RunningText.read refs (Markdown.RunningText.searchFuel text) (2 * text.length + 2) 0 {}
    (Place.start text) |>.run {}).1

end CodeHighlight
