import CodeHighlight.Yaml.Fault
import CodeHighlight.Yaml.Node

/-!
# Merging mappings

A mapping may take over the entries of other mappings. They come before its own entries; of a list
of mappings, those of the last come first. What is taken over from a mapping is what it has after it
took over from others itself. Since a mapping may take over from one around it, or from itself, the
entries that say so are removed one by one before they are followed.
-/

namespace CodeHighlight.Yaml.Nodes

/-- A change of nodes. -/
abbrev Change := StateT Nodes (Except Fault)

section

variable (merge : Nat → Change Unit)

/-- What is taken over from a mapping. -/
def takenOne (number : Nat) : Change (List (Nat × Nat)) := do
  match (← get).content? number with
  | some (.mapping _) =>
    merge number
    return (← get).pairs number
  | _ => throw .malformed

/-- What is taken over from a mapping, or from the mappings of a list. -/
def taken (number : Nat) : Change (List (Nat × Nat)) := do
  match (← get).content? number with
  | some (.sequence items) => return (← items.mapM (takenOne merge)).reverse.flatten
  | _ => takenOne merge number

/-- What a mapping takes over for one of its entries. The key that stands for the value of a mapping
is an ordinary one from here on. -/
def takenFor (number : Nat) (entry : Nat × Nat) : Change (List (Nat × Nat)) := do
  let nodes ← get
  match nodes.tag? entry.1 with
  | some .merge =>
    -- The entry was removed before if following another one led back to this mapping.
    if (nodes.pairs number).contains entry then
      set (nodes.fill number (.mapping ((nodes.pairs number).erase entry)))
      taken merge entry.2
    else return []
  | some .value =>
    set (nodes.retag entry.1 .text)
    return []
  | _ => return []

end

/-- Lets a mapping take over what it is to take over; so many mappings may wait for it. -/
def merge : Nat → Nat → Change Unit
  | 0, _ => throw .malformed
  | depth + 1, number => do
    let taken ← ((← get).pairs number).mapM (takenFor (merge depth) number)
    modify fun nodes => nodes.fill number (.mapping (taken.flatten ++ nodes.pairs number))

/-- How many entries there are. Each mapping that waits for another one has given up one of them. -/
def entryCount (nodes : Nodes) : Nat :=
  nodes.foldl (fun count node => match node.content with
    | .mapping pairs => count + pairs.length
    | _ => count) 0

end CodeHighlight.Yaml.Nodes
