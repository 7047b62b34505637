import CodeHighlight.Proofs.Document.Replace

/-!
# Documents that are trees

Below the topmost object of a tree every object stands at one place. Then no path is longer than the
store, so the tree of places is not cut off anywhere, and reading a store back as a tree follows the
tree of places. `rewrite` is the recursive map that exchanges slots for finished markup; a store
with replaced slots reads back as the map of the tree that it was.
-/

namespace CodeHighlight

namespace Occurrence

mutual

/-- The tree that the places show in a store, every slot with parts exchanged for these as finished
markup. -/
def rewrite (s : Store) (parts : Slot → Option (List String)) : Occurrence → Node
  | mk n cs =>
    let r := s.get n
    ⟨r.kind, r.value, r.language, r.info, r.opening, r.closing,
      r.children.map fun _ => rewriteAll s parts n 0 cs⟩

/-- The trees that stand for the children of `parent` from `index` on. -/
def rewriteAll (s : Store) (parts : Slot → Option (List String)) (parent : NodeId) (index : Nat) :
    List Occurrence → List Node
  | [] => []
  | o :: rest =>
    (match parts ⟨parent, index⟩ with
      | some texts => texts.map Node.html
      | none => [rewrite s parts o]) ++ rewriteAll s parts parent (index + 1) rest

end

end Occurrence

namespace Store

/-- Below `root` every object is known to the store and stands at one place only. -/
structure IsTree (s : Store) (root : NodeId) : Prop where
  known : ∀ v ∈ s.visits root, v.node < s.records.size
  once : ((s.visits root).map Visit.node).Nodup

private theorem size_le_sizeAll (cs : List Occurrence) (o : Occurrence) (h : o ∈ cs) :
    o.size ≤ Occurrence.sizeAll cs := by
  induction cs with
  | nil => cases h
  | cons c rest ih =>
    rw [Occurrence.sizeAll]
    rcases List.mem_cons.mp h with rfl | h
    · exact Nat.le_add_right _ _
    · exact Nat.le_trans (ih h) (Nat.le_add_left _ _)

/-- Below a tree of places that fits the depth, the children fit the depth that is left. -/
theorem size_occurrence_child (s : Store) (depth : Nat) (n c : NodeId)
    (h : (s.occurrence (depth + 1) n).size ≤ depth + 1) (hc : c ∈ s.childIds n) :
    (s.occurrence depth c).size ≤ depth := by
  rw [occurrence_succ, Occurrence.size] at h
  have := size_le_sizeAll _ _ (List.mem_map_of_mem (f := s.occurrence depth) hc)
  omega

private theorem not_size_le_zero (s : Store) (n : NodeId) (h : (s.occurrence 0 n).size ≤ 0) :
    False := by
  simp [occurrence, Occurrence.size] at h

/-- A tree of places that fits the depth is not cut off. -/
theorem occurrence_of_le (s : Store) (depth depth' : Nat) (n : NodeId)
    (h : (s.occurrence depth n).size ≤ depth) (hd : depth ≤ depth') :
    s.occurrence depth' n = s.occurrence depth n := by
  induction depth generalizing n depth' with
  | zero => exact (not_size_le_zero s n h).elim
  | succ depth ih =>
    obtain ⟨k, rfl⟩ : ∃ k, depth' = k + 1 := ⟨depth' - 1, by omega⟩
    rw [occurrence_succ, occurrence_succ]
    congr 1
    apply List.map_congr_left
    intro c hc
    exact ih k c (size_occurrence_child s depth n c h hc) (by omega)

/-- A tree has at most as many places as the store has objects. -/
theorem IsTree.size_le (s : Store) (root : NodeId) (h : s.IsTree root) :
    (s.unfold root).size ≤ s.records.size := by
  have hsub : (s.visits root).map Visit.node ⊆ List.range s.records.size := by
    intro n hn
    obtain ⟨v, hv, rfl⟩ := List.mem_map.mp hn
    exact List.mem_range.mpr (h.known v hv)
  have hle := h.once.length_le_of_subset hsub
  rwa [List.length_map, List.length_range, visits, Occurrence.visits_eq_preorder,
    Occurrence.length_preorder] at hle

/-- No slot of a tree is visited twice. -/
theorem IsTree.slots_nodup (s : Store) (root : NodeId) (h : s.IsTree root) :
    ((s.visits root).filterMap Visit.slot).Nodup := by
  rw [List.Nodup, List.pairwise_filterMap]
  have once := h.once
  rw [List.Nodup, List.pairwise_map] at once
  apply List.Pairwise.imp_of_mem _ once
  intro a b ha hb hab t ht t' ht' he
  subst t'
  -- A slot holds one object, and that object is visited once.
  have hsa := (slot_of_mem_visits s root a t ha ht).2
  rw [(slot_of_mem_visits s root b t hb ht').2, Option.some.injEq] at hsa
  exact hab hsa.symm

/-- Finished markup reads back as a leaf at any depth. -/
theorem treeTo_html (s : Store) (depth : Nat) (n : NodeId) (text : String)
    (h : s.get n = .html text) : s.treeTo depth n = Node.html text := by
  cases depth <;> simp [treeTo, h, NodeRecord.html, Node.html]

private theorem map_treeTo_children (before after : Store) (done : Replaced)
    (h : before.Rewritten done after) (depth : Nat) (parent : NodeId) (ids : List NodeId)
    (index : Nat)
    (ih : ∀ c ∈ ids, after.treeTo depth c =
      (before.occurrence depth c).rewrite before done.texts?) :
    (done.children parent index ids).map (after.treeTo depth) =
      Occurrence.rewriteAll before done.texts? parent index
        (ids.map (before.occurrence depth)) := by
  induction ids generalizing index with
  | nil => rfl
  | cons c rest ihs =>
    rw [Replaced.children, List.map_append, List.map_cons, Occurrence.rewriteAll,
      ihs _ fun c' hc' => ih c' (List.mem_cons_of_mem _ hc'), Replaced.texts?]
    congr 1
    cases hd : done ⟨parent, index⟩ with
    | none => simp [ih c List.mem_cons_self]
    | some fresh =>
      simp only [Option.elim_some, Option.map_some, List.map_map]
      apply List.map_congr_left
      intro p hp
      exact treeTo_html after depth p.1 p.2 ((h.fresh _ fresh hd).2 p hp).2.2

/-- A store with replaced slots reads back, to a depth that the old tree fits, as the map of the
old tree. -/
theorem Rewritten.treeTo (before after : Store) (done : Replaced)
    (h : before.Rewritten done after) (depth : Nat) (n : NodeId) (slot : Option Slot)
    (hsize : (before.occurrence depth n).size ≤ depth)
    (hknown : ∀ v ∈ Occurrence.preorder slot (before.occurrence depth n),
      v.node < before.records.size) :
    after.treeTo depth n = (before.occurrence depth n).rewrite before done.texts? := by
  induction depth generalizing n slot with
  | zero => exact (not_size_le_zero before n hsize).elim
  | succ depth ih =>
    have hn : n < before.records.size := by
      have := hknown _ (Occurrence.mem_preorder_self slot _)
      rwa [node_occurrence] at this
    have hchild : ∀ c ∈ before.childIds n,
        after.treeTo depth c = (before.occurrence depth c).rewrite before done.texts? := by
      intro c hc
      obtain ⟨i, hi⟩ := List.mem_iff_getElem?.mp hc
      apply ih c (some ⟨n, i⟩) (size_occurrence_child before depth n c hsize hc)
      intro v hv
      apply hknown
      rw [occurrence_succ, Occurrence.preorder, List.mem_cons, Occurrence.mem_preorderAll]
      refine .inr ⟨i, before.occurrence depth c, ?_, ?_⟩
      · rw [List.getElem?_map, hi]
        rfl
      · rwa [Nat.zero_add]
    rw [occurrence_succ, Store.treeTo, h.get_old n hn, Occurrence.rewrite]
    simp only [NodeRecord.mapChildren, Option.map_map]
    congr 1
    cases hc : (before.get n).children with
    | none => rfl
    | some ids =>
      have hids : before.childIds n = ids := by rw [childIds, hc, Option.getD_some]
      rw [hids] at hchild ⊢
      rw [Option.map_some, Option.map_some, Function.comp_apply,
        map_treeTo_children before after done h depth n ids 0 hchild]

/-- A tree with replaced slots reads back as the map of the tree that it was. -/
theorem Rewritten.tree (before after : Store) (done : Replaced)
    (h : before.Rewritten done after) (root : NodeId) (ht : before.IsTree root) :
    after.tree root = (before.unfold root).rewrite before done.texts? := by
  have hsize := IsTree.size_le before root ht
  have hle := Nat.le_trans hsize h.size_le
  have huncut := occurrence_of_le before _ _ root hsize h.size_le
  have hknown : ∀ v ∈ Occurrence.preorder none (before.occurrence after.records.size root),
      v.node < before.records.size := by
    intro v hv
    apply ht.known
    rwa [huncut, ← unfold, ← Occurrence.visits_eq_preorder] at hv
  rw [Store.tree, Rewritten.treeTo before after done h after.records.size root none
    (by rw [huncut]; exact hle) hknown, huncut, unfold]

/-- A tree reads back as what its places show. -/
theorem IsTree.tree_eq (s : Store) (root : NodeId) (h : s.IsTree root) :
    s.tree root = (s.unfold root).rewrite s fun _ => none :=
  Rewritten.tree s s _ s.rewritten_refl root h

end Store

end CodeHighlight
