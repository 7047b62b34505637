import CodeHighlight.Highlighter
import CodeHighlight.Proofs.Document.Traversal

/-!
# How blocks are found

The blocks of a document are the code objects that its traversal reports, apart from the topmost
object. The traversal is the preorder of the recursion, so they come in document order, each with
the parent and the index that it stands at.
-/

namespace CodeHighlight.Highlighter

/-- A block found, as the visit that found it. -/
def asVisit (block : NodeId × Slot) : Visit := ⟨block.1, some block.2⟩

/-- How the visits of a document come about, and what they are. -/
structure VisitsInOrder (s : Store) (root : NodeId) : Prop where
  /-- The traversal ends, with nothing due and all visits reported. -/
  ends : ∀ last, EndsIn (s.next? none) ⟨[⟨root, none⟩], []⟩ last ↔ last = ⟨[], s.visits root⟩
  /-- So does a traversal that reports one kind of objects. -/
  endsOfKind : ∀ kind last, EndsIn (s.next? (some kind)) ⟨[⟨root, none⟩], []⟩ last ↔
    last = ⟨[], s.visitsOf kind root⟩
  /-- The visits of one kind are all visits without the others, in the same order. -/
  ofKind : ∀ kind, s.visitsOf kind root =
    (s.visits root).filter fun v => (s.get v.node).kind = kind
  /-- The visits begin with the topmost object, which has no slot. -/
  top : s.visits root = s.visitsFrom ⟨root, none⟩
  /-- From there on an object is followed by all that lies below its children, child by child. -/
  preorder : ∀ v, s.Below root v.node →
    s.visitsFrom v = v :: (s.childVisits v.node).flatMap s.visitsFrom
  /-- Each way of child indices into the document has one visit, in lexicographic order. -/
  once : ∃ ways : List (List Nat), ways.Pairwise (· < ·) ∧
    (∀ way, way ∈ ways ↔ (s.visitAlong ⟨root, none⟩ way).isSome) ∧
    ways.map (s.visitAlong ⟨root, none⟩) = (s.visits root).map some
  /-- Behind the topmost object every visit is one of a slot, and the object stands there. -/
  slots : ∀ v ∈ (s.visits root).tail, ∃ slot, v.slot = some slot ∧ s.Below root slot.parent ∧
    (s.childIds slot.parent)[slot.index]? = some v.node
  /-- The blocks found are the visits of code objects behind the topmost object. -/
  blocks : (discover s root).map asVisit =
    (s.visits root).tail.filter fun v => (s.get v.node).kind = Node.codeKind

private theorem map_asVisit_filterMap (visits : List Visit)
    (h : ∀ v ∈ visits, ∃ slot, v.slot = some slot) :
    (visits.filterMap fun v => v.slot.map fun slot => (v.node, slot)).map asVisit = visits := by
  induction visits with
  | nil => rfl
  | cons v rest ih =>
    obtain ⟨n, slot?⟩ := v
    obtain ⟨slot, rfl⟩ := h _ List.mem_cons_self
    rw [List.filterMap_cons_some (by rfl), List.map_cons,
      ih fun w hw => h w (List.mem_cons_of_mem _ hw)]
    rfl

/-- The blocks found are the visits of code objects behind the topmost object. -/
theorem map_asVisit_discover (s : Store) (root : NodeId) (h : s.IsAcyclic root) :
    (discover s root).map asVisit =
      (s.visits root).tail.filter fun v => (s.get v.node).kind = Node.codeKind := by
  have htop : s.visits root = ⟨root, none⟩ :: (s.visits root).tail := by
    rw [Store.visits_eq_visitsFrom, s.visitsFrom_eq root h _ .refl, List.tail_cons]
  rw [discover, Store.visitsOf, htop, List.filter_cons, List.tail_cons]
  have htail := map_asVisit_filterMap
    ((s.visits root).tail.filter fun v => (s.get v.node).kind = Node.codeKind) fun v hv => by
      obtain ⟨slot, hslot, -⟩ := s.slot_of_mem_tail root h v (List.mem_filter.mp hv).1
      exact ⟨slot, hslot⟩
  -- The topmost object has no slot, so it is dropped whatever its kind is.
  split
  · rw [List.filterMap_cons_none (by rfl)]
    exact htail
  · exact htail

/-- The traversal of a document without cycles ends with the preorder of the recursion, in which the
blocks are the code objects behind the topmost one. -/
theorem visits_in_order (s : Store) (root : NodeId) (h : s.IsAcyclic root) :
    VisitsInOrder s root where
  ends last := by
    have hall : (s.visits root).filter (s.isWanted none) = s.visits root :=
      List.filter_eq_self.mpr fun _ _ => rfl
    rw [s.endsIn_next_iff root h none last, hall]
  endsOfKind kind := s.endsIn_next_iff root h (some kind)
  ofKind _ := rfl
  top := s.visits_eq_visitsFrom root
  preorder v hv := s.visitsFrom_eq root h v hv
  once := s.exists_ways root h
  slots v hv := s.slot_of_mem_tail root h v hv
  blocks := map_asVisit_discover s root h

/-- A document whose topmost object is a code object: below it stand one with another one as its
child, which has an empty list of children, and a leaf. -/
def nestedCodeStore : Store where
  records := #[
    { kind := Node.codeKind, children := some [1, 3] },
    { kind := Node.codeKind, value := some "x", children := some [2] },
    { kind := Node.codeKind, value := some "y", children := some [] },
    { kind := "paragraph", value := some "z" }]

/-- Both code objects below the topmost one are found, the outer one first. -/
theorem visits_in_order_nested : VisitsInOrder nestedCodeStore 0 ∧
    discover nestedCodeStore 0 = [(1, ⟨0, 0⟩), (2, ⟨1, 0⟩)] := by
  have hacyclic := nestedCodeStore.isAcyclic_of_ascending 0 (by decide) (by decide)
  refine ⟨visits_in_order nestedCodeStore 0 hacyclic, ?_⟩
  rw [discover, Store.visitsOf, Store.visits, Occurrence.visits_eq_preorder]
  decide

end CodeHighlight.Highlighter
