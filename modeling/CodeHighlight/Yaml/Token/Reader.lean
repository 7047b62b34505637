import CodeHighlight.Yaml.Scalar.Block
import CodeHighlight.Yaml.Scalar.Plain
import CodeHighlight.Yaml.Token.Property

/-!
# Reading tokens

A text is read from front to end. Whether something is the key of a mapping shows only at the colon
behind it, so a place is kept free before everything that may be a key, and the tokens that open a
key are put there when the colon comes. A key without marks ends in its line and within 1024
characters.
-/

namespace CodeHighlight.Yaml

namespace TokenReader

/-- The beginning of what may be a key. -/
structure KeyStart where
  /-- The place that is kept free for its tokens. -/
  place : Nat
  /-- Nothing but a key may stand here. -/
  required : Bool
  cursor : Cursor

/-- What begins here can be a key no more: its line ended, or it is too long. -/
def KeyStart.isStale (start : KeyStart) (cursor : Cursor) : Bool :=
  start.cursor.line ≠ cursor.line || 1024 < cursor.index - start.cursor.index

/-- The state of reading. -/
structure State where
  cursor : Cursor
  /-- The tokens at each place. -/
  places : Array (List Token) := #[]
  /-- The column of the innermost block collection. -/
  indent : Int := -1
  /-- The columns of the collections around it. -/
  outer : List Int := []
  /-- How many flow collections are open. -/
  flow : Nat := 0
  keyAllowed : Bool := true
  /-- What may be a key, by the number of flow collections around it. -/
  starts : List (Nat × KeyStart) := []

/-- A step of reading. -/
abbrev Step := StateT State (Except Fault)

/-- Refuses the text. -/
def refuse {α : Type} : Step α := throw .malformed

/-- Adds a token. -/
def emit (token : Token) : Step Unit := modify fun s => { s with places := s.places.push [token] }

/-- Adds a token that takes so many characters. -/
def emitOver (length : Nat) (token : Token) : Step Unit := do
  modify fun s => { s with cursor := s.cursor.skip length }
  emit token

/-- Adds a token that was read, and goes on behind it. -/
def emitRead (reading : Property.Reading) : Step Unit := do
  let (token, rest) ← liftM reading
  modify fun s => { s with cursor := s.cursor.goTo rest }
  emit token

/-- Says whether a key may begin next. -/
def allowKey (allowed : Bool) : Step Unit := modify fun s => { s with keyAllowed := allowed }

/-- Gives up what may be a key at the current number of flow collections. -/
def dropStart : Step Unit := do
  let s ← get
  if (s.starts.lookup s.flow).any (·.required) then refuse
  set { s with starts := s.starts.filter (·.1 ≠ s.flow) }

/-- What may still be a key. -/
def State.openStarts (s : State) : List (Nat × KeyStart) :=
  s.starts.filter fun (_, start) => !start.isStale s.cursor

/-- Gives up what can be a key no more. -/
def dropStale : Step Unit := do
  let s ← get
  if s.starts.any fun (_, start) => start.isStale s.cursor && start.required then refuse
  set { s with starts := s.openStarts }

/-- Keeps a place free if a key may begin here. -/
def saveStart : Step Unit := do
  let s ← get
  if s.keyAllowed then
    -- At the column of an open block collection only its next entry can begin.
    let required := s.flow = 0 && s.indent = s.cursor.column
    dropStart
    modify fun s => { s with
      starts := (s.flow, ⟨s.places.size, required, s.cursor⟩) :: s.starts
      places := s.places.push [] }

/-- Closes the block collections that a column ends. -/
def unwind (column : Int) : Step Unit := do
  let s ← get
  if s.flow = 0 then
    let closed := (s.indent :: s.outer).takeWhile (column < ·)
    let left := (s.indent :: s.outer).drop closed.length
    set { s with
      places := closed.foldl (fun places _ => places.push [.blockEnd]) s.places
      indent := left.headD (-1)
      outer := left.tail }

/-- Opens a block collection at a column, unless one is open there. -/
def deepen (column : Nat) : Step Bool := do
  let s ← get
  if s.indent < column then
    set { s with indent := column, outer := s.indent :: s.outer }
    return true
  else return false

/-- A block collection may open here; it is then announced. -/
def openBlock (token : Token) : Step Unit := do
  let s ← get
  if s.flow = 0 then
    if !s.keyAllowed then refuse
    if ← deepen s.cursor.column then emit token

/-- Passes blanks, comments and line breaks. -/
def passGaps : Nat → Step Unit
  | 0 => return
  | fuel + 1 => do
    let s ← get
    let rest := dropSpaces s.cursor.rest
    let rest := if rest.head? = some '#' then dropLine rest else rest
    match rest with
    | '\n' :: rest =>
      set { s with cursor := s.cursor.goTo rest, keyAllowed := s.keyAllowed || s.flow = 0 }
      passGaps fuel
    | rest => set { s with cursor := s.cursor.goTo rest }

/-- A mark between documents. -/
def documentMark (token : Token) : Step Unit := do
  unwind (-1)
  dropStart
  allowKey false
  emitOver 3 token

/-- The beginning of a flow collection. -/
def openFlow (token : Token) : Step Unit := do
  saveStart
  modify fun s => { s with flow := s.flow + 1 }
  allowKey true
  emitOver 1 token

/-- The end of a flow collection. -/
def closeFlow (token : Token) : Step Unit := do
  dropStart
  if (← get).flow = 0 then refuse
  modify fun s => { s with flow := s.flow - 1 }
  allowKey false
  emitOver 1 token

/-- The mark between the entries of a flow collection. -/
def flowEntry : Step Unit := do
  allowKey true
  dropStart
  emitOver 1 .flowEntry

/-- The mark before an entry of a block sequence. -/
def blockEntry : Step Unit := do
  openBlock .blockSequence
  allowKey true
  dropStart
  emitOver 1 .blockEntry

/-- The mark before a key. -/
def keyMark : Step Unit := do
  openBlock .blockMapping
  allowKey ((← get).flow = 0)
  dropStart
  emitOver 1 .key

/-- The colon before a value; what stands before it in its line is a key. -/
def valueMark : Step Unit := do
  let s ← get
  match s.starts.lookup s.flow with
  | some start =>
    -- The column of the key decides whether a mapping opens, not that of the colon.
    let opens ← if s.flow = 0 then deepen start.cursor.column else pure false
    modify fun s => { s with
      starts := s.starts.filter (·.1 ≠ s.flow)
      places := s.places.setIfInBounds start.place
        (if opens then [.blockMapping, .key] else [.key]) }
    allowKey false
  | none =>
    openBlock .blockMapping
    allowKey (s.flow = 0)
    dropStart
  emitOver 1 .value

/-- An anchor, an alias or a tag. -/
def property (read : List Char → Property.Reading) : Step Unit := do
  saveStart
  allowKey false
  emitRead (read (← get).cursor.rest)

/-- A directive. -/
def directive : Step Unit := do
  unwind (-1)
  dropStart
  allowKey false
  emitRead (Property.readDirective (← get).cursor.rest)

/-- A block scalar. -/
def blockScalar (folded : Bool) : Step Unit := do
  allowKey true
  dropStart
  let s ← get
  match Block.read? folded s.indent (s.cursor.rest.drop 1) with
  | some (text, rest) => emitRead (.ok (.scalar text false, rest))
  | none => refuse

/-- A quoted scalar. -/
def quotedScalar (read : List Char → Quoted.Reading) : Step Unit := do
  saveStart
  allowKey false
  let reading := read ((← get).cursor.rest.drop 1)
  emitRead (reading.map fun (text, rest) => (.scalar text false, rest))

/-- A plain scalar. Behind one that ends with its line a key may begin. -/
def plainScalar : Step Unit := do
  saveStart
  let s ← get
  let reading := Plain.read (s.flow ≠ 0) (s.indent + 1) s.cursor.rest
  allowKey reading.broken
  emitRead (.ok (.scalar reading.text true, reading.rest))

/-- A plain scalar may begin here. -/
def startsPlain (flow : Nat) (c : Char) (rest : List Char) : Bool :=
  !(" \t\n-?:,[]\x7b\x7d#&*!|>'\"%@".toList ++ [Char.ofNat 0x60]).contains c ||
    !atGap rest && (c = '-' || flow = 0 && (c = '?' || c = ':'))

/-- Reads the token that begins with a character. -/
def token (s : State) (c : Char) (rest : List Char) : Step Unit :=
  let atMargin := s.cursor.column = 0
  let block := s.flow = 0
  let marks := !block || atGap rest
  if c = '%' && atMargin then directive
  else if atMargin && atMark "---" (c :: rest) then documentMark .documentStart
  else if atMargin && atMark "..." (c :: rest) then documentMark .documentEnd
  else if c = '[' then openFlow .flowSequence
  else if c = '\x7b' then openFlow .flowMapping
  else if c = ']' then closeFlow .flowSequenceEnd
  else if c = '\x7d' then closeFlow .flowMappingEnd
  else if c = ',' then flowEntry
  else if c = '-' && atGap rest then blockEntry
  else if c = '?' && marks then keyMark
  else if c = ':' && marks then valueMark
  else if c = '*' then property (Property.readName .alias)
  else if c = '&' then property (Property.readName .anchor)
  else if c = '!' then property Property.readTag
  else if c = '|' && block then blockScalar false
  else if c = '>' && block then blockScalar true
  else if c = '\'' then quotedScalar (Quoted.readSingle .nothing)
  else if c = '"' then quotedScalar (Quoted.readDouble (.content .nothing))
  else if startsPlain s.flow c rest then plainScalar
  else refuse

/-- Reads the next token; the flag tells that the text is at its end. -/
def next : Step Bool := do
  passGaps ((← get).cursor.rest.length + 1)
  dropStale
  unwind (← get).cursor.column
  let s ← get
  match s.cursor.rest with
  | [] =>
    unwind (-1)
    dropStart
    emit .done
    return true
  | c :: rest =>
    token s c rest
    return false

/-- The tokens of a state. -/
def State.tokens (s : State) : List Token := s.places.toList.flatten

/-- The tokens that no key can move any more: those before everything that may still be one. -/
def State.settled (s : State) : List Token :=
  let places := s.openStarts.map fun (_, start) => start.place
  (s.places.toList.take (places.foldl min s.places.size)).flatten

/-- Reads on; every token but the last takes a character. Where a text breaks off, a token that may
begin a key is not seen: whether it does was not yet decided. -/
def readOn : Nat → State → List Token
  | 0, s => s.settled ++ [.broken .malformed]
  | fuel + 1, s =>
    match next.run s with
    | .error fault => s.settled ++ [.broken fault]
    | .ok (true, s) => s.tokens
    | .ok (false, s) => readOn fuel s

end TokenReader

/-- The tokens of a text. -/
def Token.ofText (text : List Char) : List Token :=
  TokenReader.readOn (text.length + 1) { cursor := { rest := Text.dropMark text } }

end CodeHighlight.Yaml
