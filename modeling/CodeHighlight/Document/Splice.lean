import CodeHighlight.Document.Store
import CodeHighlight.Fault

/-!
# Replacing a child

A code block is known by its node object, its parent and its index. It is replaced only if that
object still stands there. An index below zero counts from the end for the check, and its place is
cut out as a slice: for the last child that slice is empty and lies before the child.
-/

namespace CodeHighlight

/-- A node object together with the place where it was seen. -/
structure BlockRef where
  node : NodeId
  parent : NodeId
  index : Int
deriving Repr, DecidableEq

/-- Why a child is not replaced. -/
inductive SpliceFault where
  /-- Another node stands at the place, or none. -/
  | moved
  /-- The index lies before the first child. -/
  | beforeFirst
deriving Repr, DecidableEq

/-- The failure that a fault raises. -/
def SpliceFault.failure : SpliceFault → Failure
  | .moved => .plain .invalidNode "Code block moved before it could be replaced"
  | .beforeFirst => .plain .badIndex "list index out of range"

namespace Store

/-- Replaces the slice of `children` at an index below zero or not. -/
def replaceSlice (children replacement : List NodeId) (index : Int) : List NodeId :=
  let length : Int := children.length
  let clamp (i : Int) : Nat := (max 0 (min length (if i < 0 then i + length else i))).toNat
  let start := clamp index
  -- For -1 the next place is 0, before the slice begins, so nothing is cut out.
  let stop := max start (clamp (index + 1))
  children.take start ++ replacement ++ children.drop stop

/-- The child at an index that may count from the end. -/
def childAt (children : List NodeId) (index : Int) : Except SpliceFault NodeId :=
  let place := if index < 0 then index + children.length else index
  if place < 0 then .error .beforeFirst
  else match children[place.toNat]? with
    | some n => .ok n
    | none => .error .moved

/-- Replaces a block by other node objects. -/
def splice (s : Store) (block : BlockRef) (replacement : List NodeId) :
    Except SpliceFault Store := do
  let parent := s.get block.parent
  match parent.children with
  | none => .error .moved
  | some children =>
    let found ← childAt children block.index
    if found = block.node then
      return s.put block.parent
        { parent with children := some (replaceSlice children replacement block.index) }
    else .error .moved

end Store

end CodeHighlight
