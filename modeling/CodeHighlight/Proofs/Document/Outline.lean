import CodeHighlight.Proofs.Document.Splice

/-!
# Outlines

The outline of a document lists its nodes in preorder, each with its index and without its children.
It is what a walk reads of a store, and structurally equal documents have one outline, whatever
numbers their objects have.
-/

namespace CodeHighlight

/-- A node of a document with its index in the children of its parent, if it has one. -/
abbrev Entry := Option Nat × NodeRecord

namespace Node

mutual

/-- The nodes of a tree in preorder; the tree itself stands at `index`. -/
def outline (index : Option Nat) : Node → List Entry
  | ⟨kind, value, language, info, opening, closing, children⟩ =>
    (index, { kind, value, language, info, opening, closing }) :: outlineChildren children

/-- The nodes below a node. -/
def outlineChildren : Option (List Node) → List Entry
  | none => []
  | some nodes => outlineAll 0 nodes

/-- The nodes of trees that stand side by side, the first of them at `index`. -/
def outlineAll (index : Nat) : List Node → List Entry
  | [] => []
  | node :: rest => outline (some index) node ++ outlineAll (index + 1) rest

end

end Node

namespace Store

/-- What a walk reads of an object that it visits. -/
def entry (s : Store) (v : Visit) : Entry := (v.slot.map Slot.index, (s.get v.node).bare)

private theorem outlineAll_treeTo (s : Store) (depth : Nat) (parent : NodeId) (ids : List NodeId)
    (index : Nat)
    (ih : ∀ n slot, (Occurrence.preorder slot (s.occurrence depth n)).map s.entry =
      Node.outline (slot.map Slot.index) (s.treeTo depth n)) :
    (Occurrence.preorderAll parent index (ids.map (s.occurrence depth))).map s.entry =
      Node.outlineAll index (ids.map (s.treeTo depth)) := by
  induction ids generalizing index with
  | nil => rfl
  | cons n rest ihs =>
    rw [List.map_cons, List.map_cons, Occurrence.preorderAll, List.map_append, ih, ihs,
      Node.outlineAll]
    rfl

/-- The walk over a tree of places reads the outline of the tree. -/
theorem map_entry_preorder (s : Store) (depth : Nat) (n : NodeId) (slot : Option Slot) :
    (Occurrence.preorder slot (s.occurrence depth n)).map s.entry =
      Node.outline (slot.map Slot.index) (s.treeTo depth n) := by
  induction depth generalizing n slot with
  | zero => rfl
  | succ depth ih =>
    rw [occurrence_succ, Occurrence.preorder, List.map_cons, treeTo, Node.outline,
      outlineAll_treeTo s depth n _ 0 ih, childIds]
    cases hc : (s.get n).children with
    | none => simp [entry, NodeRecord.bare, Node.outlineChildren, Node.outlineAll]
    | some ids => simp [entry, NodeRecord.bare, Node.outlineChildren]

/-- A walk over a document reads its outline. -/
theorem map_entry_visits (s : Store) (root : NodeId) :
    (s.visits root).map s.entry = Node.outline none (s.tree root) := by
  rw [visits, Occurrence.visits_eq_preorder, unfold, map_entry_preorder]
  rfl

end Store

end CodeHighlight
