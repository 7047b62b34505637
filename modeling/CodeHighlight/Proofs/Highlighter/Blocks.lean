import CodeHighlight.Proofs.Document.Outline
import CodeHighlight.Proofs.Document.Tree
import CodeHighlight.Proofs.Language.Loader

/-!
# The blocks of a document

Which blocks a run finds, and the order in which it takes them: by descending index in their
parents, and blocks of one index as they come in the document. Structurally equal documents have the
same blocks and the same languages.
-/

namespace CodeHighlight.Highlighter

/-- The blocks found are the code objects that are visited in a slot. -/
theorem mem_discover (s : Store) (root : NodeId) (block : NodeId × Slot) :
    block ∈ discover s root ↔
      ⟨block.1, some block.2⟩ ∈ s.visits root ∧ (s.get block.1).kind = Node.codeKind := by
  obtain ⟨n, slot⟩ := block
  rw [discover, Store.visitsOf, List.mem_filterMap]
  constructor
  · rintro ⟨⟨m, t⟩, hv, ht⟩
    obtain ⟨t, rfl, he⟩ := Option.map_eq_some_iff.mp ht
    cases he
    simpa using hv
  · intro hv
    refine ⟨⟨n, some slot⟩, ?_, rfl⟩
    simpa using hv

/-- A block found is an object of the store. -/
theorem lt_size_of_mem_discover (s : Store) (root : NodeId) (block : NodeId × Slot)
    (hb : block ∈ discover s root) : block.1 < s.records.size := by
  have hkind := ((mem_discover s root block).mp hb).2
  apply Nat.lt_of_not_le
  intro hle
  rw [Store.get_of_size_le s block.1 hle] at hkind
  revert hkind
  decide

/-- A block found stands in its slot. -/
theorem stands_of_mem_discover (s : Store) (root : NodeId) (block : NodeId × Slot)
    (hb : block ∈ discover s root) : s.Stands block := by
  have hv := ((mem_discover s root block).mp hb).1
  exact ⟨(Store.slot_of_mem_visits s root _ block.2 hv rfl).2,
    lt_size_of_mem_discover s root block hb⟩

/-- No slot of a tree is found twice. -/
theorem discover_slots_nodup (s : Store) (root : NodeId) (ht : s.IsTree root) :
    ((discover s root).map Prod.snd).Nodup := by
  have hslots : (discover s root).map Prod.snd =
      (s.visitsOf Node.codeKind root).filterMap Visit.slot := by
    rw [discover, List.map_filterMap]
    congr 1
    funext v
    cases v.slot <;> rfl
  rw [hslots, Store.visitsOf]
  exact (Store.IsTree.slots_nodup s root ht).sublist (List.filter_sublist.filterMap _)

/-- The blocks of a document in the order in which they are processed. -/
structure Order (document blocks : List (NodeId × Slot)) : Prop where
  /-- Every block has its turn. -/
  perm : blocks.Perm document
  /-- Higher indices come first. -/
  descending : blocks.Pairwise fun a b => b.2.index ≤ a.2.index
  /-- Blocks of one index come as in the document. -/
  stable : ∀ i, blocks.filter (fun b => b.2.index = i) = document.filter (fun b => b.2.index = i)

/-- The order of processing is the stable sort by descending index. -/
theorem order_inOrder (document : List (NodeId × Slot)) : Order document (inOrder document) := by
  let le (a b : NodeId × Slot) : Bool := b.2.index ≤ a.2.index
  have trans : ∀ a b c : NodeId × Slot, le a b → le b c → le a c := by
    intro a b c hab hbc
    simp only [le, decide_eq_true_eq] at hab hbc ⊢
    omega
  have total : ∀ a b : NodeId × Slot, le a b || le b a := by
    intro a b
    simp only [le, Bool.or_eq_true, decide_eq_true_eq]
    omega
  have perm : (inOrder document).Perm document := List.mergeSort_perm document le
  constructor
  · exact perm
  · have hsorted := List.pairwise_mergeSort trans total document
    exact hsorted.imp fun hab => of_decide_eq_true hab
  · intro i
    -- Blocks of one index are in order as they come, so sorting keeps them as a sublist.
    have hsame : (document.filter fun b => b.2.index = i).Pairwise fun a b => le a b := by
      apply List.pairwise_of_forall_mem_list
      intro a ha b hb
      have hia : a.2.index = i := by simpa using (List.mem_filter.mp ha).2
      have hib : b.2.index = i := by simpa using (List.mem_filter.mp hb).2
      simp only [le, decide_eq_true_eq]
      omega
    have hsub := (List.sublist_mergeSort trans total hsame List.filter_sublist).filter
      fun b => b.2.index = i
    simp only [List.filter_filter, Bool.and_self] at hsub
    exact (hsub.eq_of_length (perm.filter _).length_eq.symm).symm

/-- What a run reads of a block: its index and its object without the children. -/
def view (s : Store) (block : NodeId × Slot) : Nat × NodeRecord :=
  (block.2.index, (s.get block.1).bare)

/-- The blocks of an outline. -/
def outlineBlocks (entries : List Entry) : List (Nat × NodeRecord) :=
  entries.filterMap fun e => if e.2.kind = Node.codeKind then e.1.map fun i => (i, e.2) else none

/-- The blocks found are those of the outline. -/
theorem map_view_discover (s : Store) (root : NodeId) :
    (discover s root).map (view s) = outlineBlocks (Node.outline none (s.tree root)) := by
  rw [← Store.map_entry_visits, discover, Store.visitsOf, List.filterMap_filter,
    List.map_filterMap, outlineBlocks, List.filterMap_map]
  congr 1
  funext v
  have hkind : (s.entry v).2.kind = (s.get v.node).kind := rfl
  rw [Function.comp_apply, hkind]
  by_cases hk : (s.get v.node).kind = Node.codeKind
  · rw [if_pos (decide_eq_true hk), if_pos hk, Store.entry]
    cases v.slot <;> rfl
  · rw [if_neg (by simpa using hk), if_neg hk]
    rfl

/-- A copy of a document with blocks has blocks. -/
theorem discover_copy (s copy : Store) (root root' : NodeId)
    (same : copy.tree root' = s.tree root) (hd : discover s root ≠ []) :
    discover copy root' ≠ [] := by
  intro hnone
  have hview := map_view_discover copy root'
  rw [same, ← map_view_discover s root, hnone] at hview
  exact hd (List.map_eq_nil_iff.mp hview.symm)

/-- Structurally equal documents have their blocks in the same order. -/
theorem map_view_inOrder (s s' : Store) (root root' : NodeId) (same : s'.tree root' = s.tree root) :
    (inOrder (discover s' root')).map (view s') = (inOrder (discover s root)).map (view s) := by
  have sorted (s : Store) (root : NodeId) : (inOrder (discover s root)).map (view s) =
      ((discover s root).map (view s)).mergeSort fun a b => b.1 ≤ a.1 :=
    List.map_mergeSort fun a _ b _ => rfl
  rw [sorted, sorted, map_view_discover, map_view_discover, same]

/-- The language of a block found is plain text or among the languages of the document. -/
theorem mem_collect_of_mem_discover (s : Store) (root : NodeId) (block : NodeId × Slot)
    (hb : block ∈ discover s root) :
    Language.normalize (s.get block.1).language = Language.plainText ∨
      Language.normalize (s.get block.1).language ∈ Language.collect s root := by
  obtain ⟨hv, hkind⟩ := (mem_discover s root block).mp hb
  by_cases htext : Language.normalize (s.get block.1).language = Language.plainText
  · exact .inl htext
  · right
    apply Language.mem_distinct
    apply List.mem_filter.mpr
    refine ⟨List.mem_map.mpr ⟨_, List.mem_filter.mpr ⟨hv, decide_eq_true hkind⟩, rfl⟩, ?_⟩
    exact decide_eq_true htext

/-- The languages are those of the code nodes in the outline. -/
theorem collect_eq (s : Store) (root : NodeId) :
    Language.collect s root = Language.distinct
      ((((Node.outline none (s.tree root)).filter fun e => e.2.kind = Node.codeKind).map
        fun e => Language.normalize e.2.language).filter (· ≠ Language.plainText)) := by
  have hkept : (((s.visits root).map s.entry).filter fun e => e.2.kind = Node.codeKind) =
      (s.visitsOf Node.codeKind root).map s.entry := by
    rw [List.filter_map, Store.visitsOf]
    rfl
  have hlanguage : (fun e : Entry => Language.normalize e.2.language) ∘ s.entry =
      fun v => Language.normalize (s.get v.node).language := by
    funext v
    have he : (s.entry v).2.language = (s.get v.node).language := rfl
    rw [Function.comp_apply, he]
  rw [← Store.map_entry_visits, hkept, List.map_map, hlanguage, Language.collect]

end CodeHighlight.Highlighter
