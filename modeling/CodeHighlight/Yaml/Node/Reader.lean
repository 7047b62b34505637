import CodeHighlight.Yaml.Node
import CodeHighlight.Yaml.Token

/-!
# Reading nodes

A document is read from its tokens. Where the grammar allows a node to be missing, an empty scalar
stands. A name belongs to one node of a document only, and stands for this node wherever it comes
behind it, even inside it.
-/

namespace CodeHighlight.Yaml

namespace NodeReader

/-- The state of reading. -/
structure State where
  tokens : List Token
  /-- The handles of tags and what they stand for. -/
  handles : List (String × String) := []
  /-- The numbers of the named nodes. -/
  names : List (String × Nat) := []
  /-- The nodes that were begun. -/
  nodes : Nodes := #[]

/-- A reader. -/
abbrev Reader := StateT State (Except Fault)

/-- Refuses the text. -/
def refuse {α : Type} : Reader α := throw .malformed

/-- The next token. Where the text breaks off before it, that is the fault. -/
def peek : Reader Token := do
  match (← get).tokens with
  | [] => refuse
  | .broken fault :: _ => throw fault
  | token :: _ => return token

/-- Passes the next token. -/
def pass : Reader Unit := modify fun s => { s with tokens := s.tokens.tail }

/-- Passes the next token if it is the given one. -/
def accept (token : Token) : Reader Bool := do
  if (← peek) = token then
    pass
    return true
  else return false

/-- Passes the given token; another one is refused. -/
def expect (token : Token) : Reader Unit := do
  if !(← accept token) then refuse

/-- The next token is one of those given. -/
def among (tokens : List Token) : Reader Bool := do return tokens.contains (← peek)

/-- Begins a node, with a name if it has one. -/
def begin (name : Option String) (node : Node) : Reader Nat := do
  let number := (← get).nodes.size
  if let some name := name then
    if ((← get).names.lookup name).isSome then refuse
    modify fun s => { s with names := (name, number) :: s.names }
  modify fun s => { s with nodes := s.nodes.push node }
  return number

/-- A scalar that is written with no characters. -/
def empty : Reader Nat := begin none ⟨Tag.ofPlain [], .scalar []⟩

/-- Begins a collection and reads what it holds. -/
def collection (name : Option String) (tag : Tag) (read : Reader Content) : Reader Nat := do
  let number ← begin name ⟨tag, .sequence []⟩
  let content ← read
  modify fun s => { s with nodes := s.nodes.fill number content }
  return number

/-- The number of the node with a name. -/
def named (name : String) : Reader Nat := do
  match (← get).names.lookup name with
  | none => refuse
  | some number => return number

/-- The name of a tag as it is written. -/
def tagName (handle : Option String) (suffix : String) : Reader String := do
  match handle with
  | none => return suffix
  | some handle =>
    match (← get).handles.lookup handle with
    | none => refuse
    | some stem => return stem ++ suffix

/-- The name that is given to a node, if there is one. -/
def anchor? : Reader (Option String) := do
  match ← peek with
  | .anchor name =>
    pass
    return some name
  | _ => return none

/-- The tag that is given to a node, if there is one. -/
def tag? : Reader (Option (Option String × String)) := do
  match ← peek with
  | .tag handle suffix =>
    pass
    return some (handle, suffix)
  | _ => return none

/-- What stands before the content of a node: a name and a tag, in either order. -/
def properties : Reader (Option String × Option String) := do
  let first ← anchor?
  let tag ← tag?
  let name ← if first.isNone && tag.isSome then anchor? else pure first
  match tag with
  | none => return (name, none)
  | some (handle, suffix) => return (name, some (← tagName handle suffix))

/-- The tag of a scalar. -/
def scalarTag (given : Option String) (plain : Bool) (text : List Char) : Tag :=
  match given with
  | none => if plain then Tag.ofPlain text else .text
  | some name => if name = "!" then Tag.ofPlain text else Tag.ofName name

/-- The tag of a collection. -/
def collectionTag (given : Option String) (default : Tag) : Tag :=
  match given with
  | none => default
  | some name => if name = "!" then default else Tag.ofName name

/-- Where a node may stand. -/
inductive Place where
  | flow
  | block
  /-- In a block mapping, where a sequence need not be indented. -/
  | entry
deriving DecidableEq

mutual

/-- A node. -/
def node (place : Place) : Nat → Reader Nat
  | 0 => refuse
  | fuel + 1 => do
    match ← peek with
    | .alias name =>
      pass
      named name
    | _ =>
    let (name, tag) ← properties
    match ← peek with
    | .scalar text plain =>
      pass
      begin name ⟨scalarTag tag plain text, .scalar text⟩
    | .flowSequence =>
      pass
      collection name (collectionTag tag .sequence) (.sequence <$> flowItems fuel true)
    | .flowMapping =>
      pass
      collection name (collectionTag tag .mapping) (.mapping <$> flowPairs fuel true)
    | token =>
    if place = .entry && token = .blockEntry then
      collection name (collectionTag tag .sequence) (.sequence <$> looseItems fuel)
    else if place ≠ .flow && token = .blockSequence then
      pass
      collection name (collectionTag tag .sequence) (.sequence <$> blockItems fuel)
    else if place ≠ .flow && token = .blockMapping then
      pass
      collection name (collectionTag tag .mapping) (.mapping <$> blockPairs fuel)
    else if name.isSome || tag.isSome then
      begin name ⟨scalarTag tag true [], .scalar []⟩
    else refuse
termination_by structural fuel => fuel

/-- A node, or an empty scalar before one of the given tokens. -/
def nodeUnless (stops : List Token) (place : Place) : Nat → Reader Nat
  | 0 => refuse
  | fuel + 1 => do if ← among stops then empty else node place fuel
termination_by structural fuel => fuel

/-- The entries of a block sequence, up to its end. -/
def blockItems : Nat → Reader (List Nat)
  | 0 => refuse
  | fuel + 1 => do
    if ← accept .blockEntry then
      let item ← nodeUnless [.blockEntry, .blockEnd] .block fuel
      return item :: (← blockItems fuel)
    else
      expect .blockEnd
      return []
termination_by structural fuel => fuel

/-- The entries of a sequence that is not indented. -/
def looseItems : Nat → Reader (List Nat)
  | 0 => refuse
  | fuel + 1 => do
    if ← accept .blockEntry then
      let item ← nodeUnless [.blockEntry, .key, .value, .blockEnd] .block fuel
      return item :: (← looseItems fuel)
    else return []
termination_by structural fuel => fuel

/-- The value of an entry, if it has one. -/
def valueUnless (stops : List Token) (place : Place) : Nat → Reader Nat
  | 0 => refuse
  | fuel + 1 => do if ← accept .value then nodeUnless stops place fuel else empty
termination_by structural fuel => fuel

/-- The entries of a block mapping, up to its end. -/
def blockPairs : Nat → Reader (List (Nat × Nat))
  | 0 => refuse
  | fuel + 1 => do
    if ← accept .key then
      let key ← nodeUnless [.key, .value, .blockEnd] .entry fuel
      let value ← valueUnless [.key, .value, .blockEnd] .entry fuel
      return (key, value) :: (← blockPairs fuel)
    else
      expect .blockEnd
      return []
termination_by structural fuel => fuel

/-- The entries of a flow sequence, up to its end. A pair stands for a mapping of one entry. -/
def flowItems : Nat → Bool → Reader (List Nat)
  | 0, _ => refuse
  | fuel + 1, first => do
    if ← accept .flowSequenceEnd then return []
    if !first then expect .flowEntry
    if ← accept .key then
      let key ← nodeUnless [.value, .flowEntry, .flowSequenceEnd] .flow fuel
      let value ← valueUnless [.flowEntry, .flowSequenceEnd] .flow fuel
      let item ← begin none ⟨.mapping, .mapping [(key, value)]⟩
      return item :: (← flowItems fuel false)
    else if ← accept .flowSequenceEnd then return []
    else
      let item ← node .flow fuel
      return item :: (← flowItems fuel false)
termination_by structural fuel => fuel

/-- The entries of a flow mapping, up to its end. An entry without a value has an empty one. -/
def flowPairs : Nat → Bool → Reader (List (Nat × Nat))
  | 0, _ => refuse
  | fuel + 1, first => do
    if ← accept .flowMappingEnd then return []
    if !first then expect .flowEntry
    if ← accept .key then
      let key ← nodeUnless [.value, .flowEntry, .flowMappingEnd] .flow fuel
      let value ← valueUnless [.flowEntry, .flowMappingEnd] .flow fuel
      return (key, value) :: (← flowPairs fuel false)
    else if ← accept .flowMappingEnd then return []
    else
      let key ← node .flow fuel
      let value ← empty
      return (key, value) :: (← flowPairs fuel false)
termination_by structural fuel => fuel

end

/-- Reads the directives before a document; the flag tells that its version was given. -/
def directives : Nat → Bool → Reader Unit
  | 0, _ => refuse
  | fuel + 1, versioned => do
    match ← peek with
    | .version major _ =>
      if versioned || major ≠ 1 then refuse
      pass
      directives fuel true
    | .handle name stem =>
      if ((← get).handles.lookup name).isSome then refuse
      modify fun s => { s with handles := (name, stem) :: s.handles }
      pass
      directives fuel versioned
    | .otherDirective =>
      pass
      directives fuel versioned
    | _ => return

/-- The handles that every document has unless it gives them another meaning. -/
def standardHandles : List (String × String) := [("!", "!"), ("!!", Tag.stem)]

/-- Passes marks that end documents. -/
def passEnds : Nat → Reader Unit
  | 0 => return
  | fuel + 1 => do
    if ← accept .documentEnd then passEnds fuel

/-- Refuses a document behind the first. Its directives are read all the same. -/
def refuseDocument {α : Type} (fuel : Nat) : Reader α := do
  modify fun s => { s with handles := [] }
  directives fuel false
  refuse

/-- The only document of the tokens, if there is one. -/
def document (fuel : Nat) : Reader (Option Nat) := do
  if ← accept .done then return none
  let explicit ← do
    match ← peek with
    | .version .. | .handle .. | .otherDirective | .documentStart => pure true
    | _ => pure false
  if explicit then
    directives fuel false
    expect .documentStart
  modify fun s => { s with handles := s.handles ++ standardHandles }
  let bare ← match ← peek with
    | .version .. | .handle .. | .otherDirective => pure true
    | .documentStart | .documentEnd | .done => pure true
    | _ => pure false
  let root ← if explicit && bare then empty else node .block fuel
  passEnds fuel
  if !(← accept .done) then refuseDocument fuel
  return some root

end NodeReader

/-- The document that tokens write, if they write one. -/
def Document.ofTokens (tokens : List Token) : Except Fault (Option Document) := do
  let fuel := 4 * tokens.length + 4
  let (root, s) ← (NodeReader.document fuel).run { tokens }
  return root.map fun root => { nodes := s.nodes, root }

end CodeHighlight.Yaml
