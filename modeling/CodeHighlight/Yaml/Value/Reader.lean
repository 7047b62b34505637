import CodeHighlight.Text.Base64
import CodeHighlight.Yaml.Node.Merge
import CodeHighlight.Yaml.Number
import CodeHighlight.Yaml.Value

/-!
# Reading values

The tag of a node decides how its content is read, and every node is read once. A collection is
filled only after everything beside it was read, so of several faults in one text the one that lies
in the fewest collections counts, and of those the first.
-/

namespace CodeHighlight.Yaml

namespace ValueReader

/-- What a node is read as: a value, or a collection, which is known by the number of the node. -/
inductive Object where
  | value (value : Value)
  | collection (number : Nat)

/-- What fills a collection. -/
inductive Filling where
  | list (items : List Object)
  | pairs (items : List (Object × Object))
  | set (members : List Value)
  | mapping (entries : List (Value × Object))

/-- The state of reading. -/
structure State where
  nodes : Nodes
  /-- What was read, by the numbers of the nodes. -/
  objects : Array (Option Object)
  /-- The collections, in the order in which they were met. -/
  met : Array Nat := #[]
  /-- What fills those that were filled, by the numbers of the nodes. -/
  fillings : Array (Option Filling)

/-- A reader. -/
abbrev Reader := StateT State (Except Fault)

/-- Refuses the text. -/
def refuse {α : Type} : Reader α := throw .malformed

/-- The tag is read from characters. -/
def isScalarTag : Tag → Bool
  | .null | .bool | .int | .float | .binary | .timestamp | .text => true
  | _ => false

/-- The tag is read from nodes. -/
def isCollectionTag : Tag → Bool
  | .sequence | .mapping | .set | .orderedMapping | .pairs => true
  | _ => false

/-- Reads a truth value in small letters. -/
def readTruth (word : String) : Except Fault Value :=
  if ["yes", "true", "on"].contains word then .ok (.bool true)
  else if ["no", "false", "off"].contains word then .ok (.bool false)
  else .error (.notTruth word)

/-- Reads bytes. -/
def readBytes (text : List Char) : Except Fault Value :=
  if text.all fun c => c.toNat < 128 then
    match Text.Base64.decode text with
    | .ok bytes => .ok (.bytes bytes)
    | .error _ => .error .malformed
  else .error .malformed

/-- Reads characters as a value with a tag. -/
def readScalar (tag : Tag) (text : List Char) : Except Fault Value :=
  match tag with
  | .null => .ok .null
  | .bool => readTruth (String.ofList (Text.lower text))
  | .int => (Number.readInt text).map .int
  | .float => (Number.readFloat text).map .float
  | .binary => readBytes text
  | .timestamp => (Moment.read text).map fun
    | .date date => .date date
    | .time time => .time time
  | .text => .ok (.text (String.ofList text))
  | _ => .error .malformed

/-- The characters that a node stands for; a mapping stands for the value of its first `=` key. A
path of such keys that is longer than there are nodes has no end. -/
def characters (nodes : Nodes) : Nat → Nat → Except Fault (List Char)
  | 0, _ => .error .endless
  | fuel + 1, number =>
    match nodes.content? number with
    | some (.scalar text) => .ok text
    | some (.mapping pairs) =>
      match pairs.find? fun entry => nodes.tag? entry.1 = some .value with
      | some (_, value) => characters nodes fuel value
      | none => .error .malformed
    | _ => .error .malformed

/-- Reads a node as the characters of a tag. -/
def readCharacters (nodes : Nodes) (tag : Tag) (number : Nat) : Except Fault Value := do
  let text ← characters nodes (nodes.size + 1) number
  match tag, nodes.content? number with
  | .timestamp, some (.mapping _) => throw .mappingAsTime
  | tag, _ => readScalar tag text

/-- Keeps what a node was read as. -/
def keep (number : Nat) (object : Object) : Reader Object := do
  modify fun s => { s with objects := s.objects.setIfInBounds number (some object) }
  return object

/-- Reads a node, unless it was read before. A collection is only met. -/
def object (number : Nat) : Reader Object := do
  let s ← get
  match s.objects[number]?.join, s.nodes.tag? number with
  | some object, _ => return object
  | none, none => refuse
  | none, some tag =>
    if isCollectionTag tag then
      modify fun s => { s with met := s.met.push number }
      keep number (.collection number)
    else if isScalarTag tag then
      let value ← liftM (readCharacters s.nodes tag number)
      keep number (.value value)
    else refuse

/-- Reads the only entry of a mapping. -/
def pair (number : Nat) : Reader (Object × Object) := do
  match (← get).nodes.content? number with
  | some (.mapping [(key, value)]) => return (← object key, ← object value)
  | _ => refuse

/-- Puts an entry of a mapping to those before it. A collection is no key. -/
def entry (entries : List (Value × Object)) (entry : Nat × Nat) :
    Reader (List (Value × Object)) := do
  let .value key ← object entry.1 | refuse
  return Value.put entries key (← object entry.2)

/-- Reads the entries of a mapping, after it took over those of others. -/
def entries (number : Nat) : Reader (List (Value × Object)) := do
  let nodes := (← get).nodes
  let (_, nodes) ← liftM ((Nodes.merge (nodes.entryCount + 1) number).run nodes)
  modify fun s => { s with nodes }
  (nodes.pairs number).foldlM entry []

/-- Reads what fills a collection. -/
def filling (number : Nat) : Reader Filling := do
  let nodes := (← get).nodes
  match nodes.tag? number, nodes.content? number with
  | some .sequence, some (.sequence items) => return .list (← items.mapM object)
  | some .orderedMapping, some (.sequence items) => return .pairs (← items.mapM pair)
  | some .pairs, some (.sequence items) => return .pairs (← items.mapM pair)
  | some .mapping, some (.mapping _) => return .mapping (← entries number)
  | some .set, some (.mapping _) => return .set ((← entries number).map Prod.fst)
  | _, _ => refuse

/-- Fills the collections from a place on, also those that are met meanwhile. -/
def fillFrom : Nat → Nat → Reader Unit
  | 0, _ => return
  | fuel + 1, place => do
    match (← get).met[place]? with
    | none => return
    | some number =>
      let filling ← filling number
      modify fun s => { s with fillings := s.fillings.setIfInBounds number (some filling) }
      fillFrom fuel (place + 1)

/-- The value of an object inside collections, the innermost of them first. -/
def valueOf (fillings : Array (Option Filling)) : Nat → List Nat → Object → Value
  | _, _, .value value => value
  | 0, _, .collection _ => .null
  | fuel + 1, around, .collection number =>
    match around.idxOf? number, fillings[number]?.join with
    | some level, _ => .enclosing level
    | none, none => .null
    | none, some filling =>
      let inner := valueOf fillings fuel (number :: around)
      match filling with
      | .list items => .list (items.map inner)
      | .pairs items => .list (items.map fun (key, value) => .list [inner key, inner value])
      | .set members => .set members
      | .mapping entries => .mapping (entries.map fun (key, value) => (key, inner value))

end ValueReader

/-- The value of a document. -/
def Value.ofDocument (document : Document) : Except Fault Value := do
  let size := document.nodes.size
  let read : ValueReader.Reader ValueReader.Object := do
    let object ← ValueReader.object document.root
    ValueReader.fillFrom (size + 1) 0
    return object
  let (object, s) ← read.run {
    nodes := document.nodes
    objects := Array.replicate size none
    fillings := Array.replicate size none }
  return ValueReader.valueOf s.fillings (size + 1) [] object

end CodeHighlight.Yaml
