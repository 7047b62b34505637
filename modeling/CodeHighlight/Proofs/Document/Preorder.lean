import CodeHighlight.Document.Store
import Mathlib.Logic.Relation

/-!
# Visits in preorder

The work list that visits a tree yields the preorder of the recursion on the tree. Every place below
the topmost one is reported with the slot that it stands in, and a tree of a store shows in each
slot what the store keeps there.
-/

namespace CodeHighlight.Occurrence

mutual

/-- The places of a tree in preorder; the tree itself stands in `slot`. -/
def preorder (slot : Option Slot) : Occurrence → List Visit
  | mk n cs => ⟨n, slot⟩ :: preorderAll n 0 cs

/-- The places of the children of `parent` from `index` on, in preorder. -/
def preorderAll (parent : NodeId) (index : Nat) : List Occurrence → List Visit
  | [] => []
  | o :: rest => preorder (some ⟨parent, index⟩) o ++ preorderAll parent (index + 1) rest

end

private theorem flatMap_slots (parent : NodeId) (index : Nat) (cs : List Occurrence) :
    (slots parent index cs).flatMap (fun p => preorder p.2 p.1) = preorderAll parent index cs := by
  induction cs generalizing index with
  | nil => rfl
  | cons o rest ih => rw [slots, List.flatMap_cons, ih, preorderAll]

/-- The work list visits the pending trees one after the other, each in preorder. -/
theorem walk_eq_flatMap (pending : List (Occurrence × Option Slot)) :
    walk pending = pending.flatMap fun p => preorder p.2 p.1 := by
  fun_induction walk pending with
  | case1 => rfl
  | case2 n cs slot rest ih =>
    rw [ih, List.flatMap_append, flatMap_slots, List.flatMap_cons, preorder, List.cons_append]

/-- The visits of a tree are its preorder. -/
theorem visits_eq_preorder (o : Occurrence) : o.visits = preorder none o := by
  rw [visits, walk_eq_flatMap, List.flatMap_singleton]

mutual

/-- Every place is visited once. -/
theorem length_preorder (slot : Option Slot) (o : Occurrence) :
    (preorder slot o).length = o.size := by
  cases o with
  | mk n cs => rw [preorder, List.length_cons, length_preorderAll, size]

/-- Every place below the children is visited once. -/
theorem length_preorderAll (parent : NodeId) (index : Nat) (cs : List Occurrence) :
    (preorderAll parent index cs).length = sizeAll cs := by
  cases cs with
  | nil => rfl
  | cons o rest =>
    rw [preorderAll, List.length_append, length_preorder, length_preorderAll, sizeAll]

end

/-- A place below the children lies below one of them. -/
theorem mem_preorderAll (parent : NodeId) (index : Nat) (cs : List Occurrence) (v : Visit) :
    v ∈ preorderAll parent index cs ↔
      ∃ i o, cs[i]? = some o ∧ v ∈ preorder (some ⟨parent, index + i⟩) o := by
  induction cs generalizing index with
  | nil => simp [preorderAll]
  | cons o rest ih =>
    rw [preorderAll, List.mem_append, ih]
    constructor
    · rintro (hv | ⟨i, o', ho, hv⟩)
      · exact ⟨0, o, rfl, hv⟩
      · refine ⟨i + 1, o', ho, ?_⟩
        rwa [Nat.add_comm i 1, ← Nat.add_assoc]
    · rintro ⟨i, o', ho, hv⟩
      cases i with
      | zero =>
        rw [List.getElem?_cons_zero, Option.some.injEq] at ho
        subst o'
        exact .inl hv
      | succ i =>
        refine .inr ⟨i, o', ho, ?_⟩
        rwa [Nat.add_comm i 1, ← Nat.add_assoc] at hv

/-- The slot of the tree decides about the first visit alone. -/
theorem map_node_preorder (slot slot' : Option Slot) (o : Occurrence) :
    (preorder slot o).map Visit.node = (preorder slot' o).map Visit.node := by
  cases o with
  | mk n cs => rw [preorder, preorder, List.map_cons, List.map_cons]

/-- The first visit of a tree is the tree itself. -/
theorem mem_preorder_self (slot : Option Slot) (o : Occurrence) :
    ⟨o.node, slot⟩ ∈ preorder slot o := by
  cases o with
  | mk n cs => exact List.mem_cons_self

end CodeHighlight.Occurrence

namespace CodeHighlight.Store

/-- The children that the store keeps for an object. -/
def childIds (s : Store) (n : NodeId) : List NodeId := (s.get n).children.getD []

/-- One level of a tree of places. -/
theorem occurrence_succ (s : Store) (depth : Nat) (n : NodeId) :
    s.occurrence (depth + 1) n = .mk n ((s.childIds n).map (s.occurrence depth)) := rfl

/-- A tree of places stands for its object. -/
@[simp] theorem node_occurrence (s : Store) (depth : Nat) (n : NodeId) :
    (s.occurrence depth n).node = n := by
  cases depth <;> rfl

/-- `c` stands among the children of `n`. -/
def Child (s : Store) (n c : NodeId) : Prop := c ∈ s.childIds n

/-- An object is `top` or lies below it. -/
abbrev Below (s : Store) (top n : NodeId) : Prop := Relation.ReflTransGen s.Child top n

/-- A visit is the first one, or it is that of a slot below, which holds the visited object. -/
theorem slot_of_mem_preorder (s : Store) (depth : Nat) (n : NodeId) (slot : Option Slot)
    (v : Visit) (hv : v ∈ Occurrence.preorder slot (s.occurrence depth n)) :
    v = ⟨n, slot⟩ ∨ ∃ t, v.slot = some t ∧ s.Below n t.parent ∧
      (s.childIds t.parent)[t.index]? = some v.node := by
  induction depth generalizing n slot with
  | zero =>
    left
    simpa [occurrence, Occurrence.preorder, Occurrence.preorderAll] using hv
  | succ depth ih =>
    rw [occurrence_succ, Occurrence.preorder, List.mem_cons, Occurrence.mem_preorderAll] at hv
    rcases hv with hv | ⟨i, o, ho, hv⟩
    · exact .inl hv
    · rw [List.getElem?_map, Option.map_eq_some_iff] at ho
      obtain ⟨c, hc, rfl⟩ := ho
      right
      rcases ih c _ hv with rfl | ⟨t, ht, hbelow, hslot⟩
      · refine ⟨_, rfl, .refl, ?_⟩
        simpa using hc
      · exact ⟨t, ht, .head (List.mem_of_getElem? hc) hbelow, hslot⟩

/-- A visited slot is one of an object below the topmost one, and holds the visited object. -/
theorem slot_of_mem_visits (s : Store) (root : NodeId) (v : Visit) (t : Slot)
    (hv : v ∈ s.visits root) (ht : v.slot = some t) :
    s.Below root t.parent ∧ (s.childIds t.parent)[t.index]? = some v.node := by
  rw [visits, Occurrence.visits_eq_preorder] at hv
  rcases slot_of_mem_preorder s _ root none v hv with rfl | ⟨t', ht', hc⟩
  · cases ht
  · rw [ht, Option.some.injEq] at ht'
    subst t'
    exact hc

end CodeHighlight.Store
