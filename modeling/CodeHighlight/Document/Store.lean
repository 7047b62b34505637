import CodeHighlight.Document.Node

/-!
# Documents with identity

Splicing changes the children of one node object, which may stand at several places of a document.
A store keeps every node object under a number of its own; children are numbers. `unfold` reads a
node back as the tree of its occurrences, and `visits` lists the occurrences in document order.
-/

namespace CodeHighlight

/-- The number of a node object. -/
abbrev NodeId := Nat

/-- A node object. -/
structure NodeRecord where
  kind : String
  value : Option String := none
  language : Option String := none
  info : Option String := none
  opening : Option String := none
  closing : Option String := none
  children : Option (List NodeId) := none
deriving Repr, DecidableEq, Inhabited

/-- The objects of a document. -/
structure Store where
  records : Array NodeRecord := #[]
deriving Repr

/-- One place where a node object stands, with the places below it. -/
inductive Occurrence where
  | mk (node : NodeId) (children : List Occurrence)
deriving Repr

/-- A slot in the children of a node object. -/
structure Slot where
  parent : NodeId
  index : Nat
deriving Repr, DecidableEq

/-- An occurrence of a node object; the topmost node has no slot. -/
structure Visit where
  node : NodeId
  slot : Option Slot
deriving Repr, DecidableEq

namespace Occurrence

/-- The node object. -/
def node : Occurrence → NodeId
  | mk n _ => n

/-- The places below. -/
def children : Occurrence → List Occurrence
  | mk _ cs => cs

mutual

/-- Number of places in the tree. -/
def size : Occurrence → Nat
  | mk _ cs => sizeAll cs + 1

/-- Number of places in all trees. -/
def sizeAll : List Occurrence → Nat
  | [] => 0
  | o :: rest => size o + sizeAll rest

end

/-- The total number of places still to be visited. -/
def pendingSize (pending : List (Occurrence × Option Slot)) : Nat :=
  sizeAll (pending.map Prod.fst)

/-- The children of an occurrence with their slots, from `index` on. -/
def slots (parent : NodeId) (index : Nat) : List Occurrence → List (Occurrence × Option Slot)
  | [] => []
  | o :: rest => (o, some ⟨parent, index⟩) :: slots parent (index + 1) rest

/-- Adding slots keeps the trees. -/
theorem map_fst_slots (parent : NodeId) (index : Nat) (cs : List Occurrence) :
    (slots parent index cs).map Prod.fst = cs := by
  induction cs generalizing index with
  | nil => rfl
  | cons o rest ih => simp [slots, ih]

/-- Sizes add up along a concatenation. -/
theorem sizeAll_append (a b : List Occurrence) : sizeAll (a ++ b) = sizeAll a + sizeAll b := by
  induction a with
  | nil => simp [sizeAll]
  | cons o rest ih => simp [sizeAll, ih, Nat.add_assoc]

/-- Visits pending places in order; the children of a place come before what was pending behind
it. -/
def walk : List (Occurrence × Option Slot) → List Visit
  | [] => []
  | (mk n cs, slot) :: rest => ⟨n, slot⟩ :: walk (slots n 0 cs ++ rest)
termination_by pending => pendingSize pending
decreasing_by
  simp only [pendingSize, List.map_append, map_fst_slots, sizeAll_append, List.map_cons, sizeAll,
    size]
  omega

/-- All places of a tree in document order. -/
def visits (o : Occurrence) : List Visit := walk [(o, none)]

end Occurrence

namespace Store

/-- The object under a number. -/
def get? (s : Store) (n : NodeId) : Option NodeRecord := s.records[n]?

/-- The object under a number; a number without an object counts as an empty node. -/
def get (s : Store) (n : NodeId) : NodeRecord := (s.get? n).getD default

/-- Adds an object. -/
def add (s : Store) (r : NodeRecord) : Store × NodeId := (⟨s.records.push r⟩, s.records.size)

/-- Replaces the object under a number. -/
def put (s : Store) (n : NodeId) (r : NodeRecord) : Store := ⟨s.records.setIfInBounds n r⟩

mutual

/-- Adds a fresh object for every node of a tree. -/
def insert (s : Store) : Node → Store × NodeId
  | ⟨kind, value, language, info, opening, closing, children⟩ =>
    let (s, children) := insertChildren s children
    s.add { kind, value, language, info, opening, closing, children }

/-- Adds fresh objects for the children of a node. -/
def insertChildren (s : Store) : Option (List Node) → Store × Option (List NodeId)
  | none => (s, none)
  | some nodes =>
    let (s, ids) := insertAll s nodes
    (s, some ids)

/-- Adds fresh objects for a list of trees. -/
def insertAll (s : Store) : List Node → Store × List NodeId
  | [] => (s, [])
  | node :: rest =>
    let (s, id) := insert s node
    let (s, ids) := insertAll s rest
    (s, id :: ids)

end

/-- The tree of places below a node object, cut off below `depth` levels. -/
def occurrence (s : Store) : Nat → NodeId → Occurrence
  | 0, n => .mk n []
  | depth + 1, n => .mk n (((s.get n).children.getD []).map (s.occurrence depth))

/-- The tree of places below a node object. Without cycles no path is longer than the store. -/
def unfold (s : Store) (n : NodeId) : Occurrence := s.occurrence s.records.size n

/-- All places below a node object in document order. -/
def visits (s : Store) (n : NodeId) : List Visit := (s.unfold n).visits

/-- The places of nodes of one kind. -/
def visitsOf (s : Store) (kind : String) (n : NodeId) : List Visit :=
  (s.visits n).filter fun v => (s.get v.node).kind = kind

/-- The tree below a node object, cut off below `depth` levels. -/
def treeTo (s : Store) : Nat → NodeId → Node
  | 0, n =>
    let r := s.get n
    ⟨r.kind, r.value, r.language, r.info, r.opening, r.closing, none⟩
  | depth + 1, n =>
    let r := s.get n
    ⟨r.kind, r.value, r.language, r.info, r.opening, r.closing,
      r.children.map fun ids => ids.map (s.treeTo depth)⟩

/-- The tree below a node object. -/
def tree (s : Store) (n : NodeId) : Node := s.treeTo s.records.size n

end Store

end CodeHighlight
