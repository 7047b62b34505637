import CodeHighlight.Proofs.Document.Tree

/-!
# Inserted trees

Inserting a tree only adds objects, one for each node and children before their parent. The objects
of a subtree are those numbered while it was inserted, so no object stands at two places, and every
later store reads the subtree back as it was.
-/

namespace CodeHighlight.Store

/-- The objects of `s` stand unchanged in `t`. -/
structure KeptBy (s t : Store) : Prop where
  size_le : s.records.size ≤ t.records.size
  get_eq : ∀ n, n < s.records.size → t.get n = s.get n

/-- A store keeps its own objects. -/
theorem KeptBy.refl (s : Store) : s.KeptBy s := ⟨Nat.le_refl _, fun _ _ => rfl⟩

/-- What is kept is kept on. -/
theorem KeptBy.trans (s t u : Store) (hst : s.KeptBy t) (htu : t.KeptBy u) : s.KeptBy u where
  size_le := Nat.le_trans hst.size_le htu.size_le
  get_eq := by
    intro n hn
    rw [htu.get_eq n (Nat.lt_of_lt_of_le hn hst.size_le), hst.get_eq n hn]

/-- Adding an object keeps the others. -/
theorem keptBy_add (s : Store) (r : NodeRecord) : s.KeptBy (s.add r).1 where
  size_le := by
    rw [add, Array.size_push]
    exact Nat.le_succ _
  get_eq := by
    intro n hn
    rw [get, get?, add, Array.getElem?_push_lt hn, get, get?, Array.getElem?_eq_getElem hn]

/-- An added object is found under its number. -/
theorem get_add (s : Store) (r : NodeRecord) : (s.add r).1.get s.records.size = r := by
  rw [get, get?, add, Array.getElem?_push_size, Option.getD_some]

/-- The objects of a store from `lo` on show trees: every store that keeps them reads these trees
back, and no object stands twice in them. -/
structure Shows (s : Store) (lo : Nat) (ids : List NodeId) (nodes : List Node) : Prop where
  le : lo ≤ s.records.size
  trees : ∀ t, s.KeptBy t → ∀ depth, s.records.size ≤ lo + depth →
    ids.map (t.treeTo depth) = nodes
  once : ∀ t, s.KeptBy t → ∀ depth parent index,
    ((Occurrence.preorderAll parent index (ids.map (t.occurrence depth))).map Visit.node).Nodup
  within : ∀ t, s.KeptBy t → ∀ depth parent index,
    ∀ v ∈ Occurrence.preorderAll parent index (ids.map (t.occurrence depth)),
      lo ≤ v.node ∧ v.node < s.records.size

/-- No objects show no trees. -/
theorem shows_nil (s : Store) : s.Shows s.records.size [] [] where
  le := Nat.le_refl _
  trees := fun _ _ _ _ => rfl
  once := fun _ _ _ _ _ => List.nodup_nil
  within := nofun

/-- Trees whose objects were numbered one after the other are shown side by side. -/
theorem Shows.cons (s t : Store) (lo : Nat) (id : NodeId) (ids : List NodeId) (node : Node)
    (nodes : List Node) (hs : s.Shows lo [id] [node]) (ht : t.Shows s.records.size ids nodes)
    (hst : s.KeptBy t) : t.Shows lo (id :: ids) (node :: nodes) := by
  have hle := hs.le
  have hle' := ht.le
  -- Behind the first tree come the others; both are judged in a row of their own.
  have hsplit (u : Store) (depth : Nat) (parent : NodeId) (index : Nat) :
      Occurrence.preorderAll parent index ((id :: ids).map (u.occurrence depth)) =
        Occurrence.preorderAll parent index ([id].map (u.occurrence depth)) ++
          Occurrence.preorderAll parent (index + 1) (ids.map (u.occurrence depth)) := by
    rw [List.map_cons, List.map_cons, List.map_nil, Occurrence.preorderAll, Occurrence.preorderAll,
      Occurrence.preorderAll, List.append_nil]
  constructor
  · exact Nat.le_trans hle hle'
  · intro u htu depth hd
    have hfirst := hs.trees u (hst.trans s t u htu) depth (by omega)
    have hrest := ht.trees u htu depth (by omega)
    rw [List.map_cons, List.map_nil, List.cons.injEq] at hfirst
    rw [List.map_cons, hfirst.1, hrest]
  · intro u htu depth parent index
    rw [hsplit, List.map_append, List.nodup_append]
    refine ⟨hs.once u (hst.trans s t u htu) depth parent index,
      ht.once u htu depth parent (index + 1), ?_⟩
    intro a ha b hb hab
    obtain ⟨v, hv, rfl⟩ := List.mem_map.mp ha
    obtain ⟨w, hw, rfl⟩ := List.mem_map.mp hb
    have hlt := (hs.within u (hst.trans s t u htu) depth parent index v hv).2
    have hge := (ht.within u htu depth parent (index + 1) w hw).1
    rw [hab] at hlt
    exact Nat.not_le.mpr hlt hge
  · intro u htu depth parent index v hv
    rw [hsplit, List.mem_append] at hv
    rcases hv with hv | hv
    · obtain ⟨hlo, hlt⟩ := hs.within u (hst.trans s t u htu) depth parent index v hv
      exact ⟨hlo, Nat.lt_of_lt_of_le hlt hle'⟩
    · obtain ⟨hlo, hlt⟩ := ht.within u htu depth parent (index + 1) v hv
      exact ⟨Nat.le_trans hle hlo, hlt⟩

private theorem preorderAll_singleton (t : Store) (n : NodeId) (depth : Nat) (parent : NodeId)
    (index : Nat) :
    Occurrence.preorderAll parent index ([n].map (t.occurrence (depth + 1))) =
      ⟨n, some ⟨parent, index⟩⟩ ::
        Occurrence.preorderAll n 0 ((t.childIds n).map (t.occurrence depth)) := by
  rw [List.map_cons, List.map_nil, Occurrence.preorderAll, Occurrence.preorderAll,
    List.append_nil, occurrence_succ, Occurrence.preorder]

private theorem treeTo_eq_of_children (t : Store) (n : NodeId) (r : NodeRecord)
    (nodes : Option (List Node)) (depth : Nat) (hget : t.get n = r)
    (hchildren : nodes.isSome = r.children.isSome)
    (htrees : (r.children.getD []).map (t.treeTo depth) = nodes.getD []) :
    t.treeTo (depth + 1) n =
      ⟨r.kind, r.value, r.language, r.info, r.opening, r.closing, nodes⟩ := by
  rw [treeTo, hget]
  cases hr : r.children with
  | none =>
    rw [hr, Option.isSome_none, Option.isSome_eq_false_iff, Option.isNone_iff_eq_none] at hchildren
    rw [hchildren, Option.map_none]
  | some ids =>
    rw [hr] at hchildren htrees
    obtain ⟨nodes, rfl⟩ := Option.isSome_iff_exists.mp hchildren
    rw [Option.getD_some, Option.getD_some] at htrees
    rw [Option.map_some, htrees]

/-- A node is added behind its children. -/
theorem Shows.add (s : Store) (lo : Nat) (r : NodeRecord) (nodes : Option (List Node))
    (hchildren : nodes.isSome = r.children.isSome)
    (hs : s.Shows lo (r.children.getD []) (nodes.getD [])) :
    (s.add r).1.Shows lo [s.records.size]
      [⟨r.kind, r.value, r.language, r.info, r.opening, r.closing, nodes⟩] := by
  have hle := hs.le
  have hkept := s.keptBy_add r
  have hsize : (s.add r).1.records.size = s.records.size + 1 := by rw [Store.add, Array.size_push]
  have hget (t : Store) (ht : (s.add r).1.KeptBy t) : t.get s.records.size = r := by
    rw [ht.get_eq _ (by omega), get_add]
  have hbelow (t : Store) (ht : (s.add r).1.KeptBy t) :
      t.childIds s.records.size = r.children.getD [] := by
    rw [childIds, hget t ht]
  constructor
  · rw [hsize]
    exact Nat.le_succ_of_le hle
  · intro t ht depth hd
    rw [hsize] at hd
    obtain ⟨depth, rfl⟩ : ∃ k, depth = k + 1 := ⟨depth - 1, by omega⟩
    have htrees := hs.trees t (hkept.trans s _ t ht) depth (by omega)
    rw [List.map_cons, List.map_nil,
      t.treeTo_eq_of_children _ r nodes depth (hget t ht) hchildren htrees]
  -- The new object is numbered behind all that stand below it.
  · intro t ht depth parent index
    cases depth with
    | zero => exact List.nodup_cons.mpr ⟨List.not_mem_nil, List.nodup_nil⟩
    | succ depth =>
      rw [preorderAll_singleton, hbelow t ht, List.map_cons, List.nodup_cons]
      refine ⟨?_, hs.once t (hkept.trans s _ t ht) depth _ 0⟩
      intro hm
      obtain ⟨v, hv, he⟩ := List.mem_map.mp hm
      have hlt := (hs.within t (hkept.trans s _ t ht) depth _ 0 v hv).2
      exact Nat.ne_of_lt hlt he
  · intro t ht depth parent index v hv
    have hnew : lo ≤ s.records.size ∧ s.records.size < (s.add r).1.records.size := by omega
    cases depth with
    | zero =>
      rw [List.mem_singleton.mp hv]
      exact hnew
    | succ depth =>
      rw [preorderAll_singleton, hbelow t ht] at hv
      rcases List.mem_cons.mp hv with rfl | hv
      · exact hnew
      · obtain ⟨hlo, hlt⟩ := hs.within t (hkept.trans s _ t ht) depth _ 0 v hv
        exact ⟨hlo, Nat.lt_trans hlt hnew.2⟩

mutual

/-- A tree is inserted behind the objects that are there. -/
theorem insert_spec (s : Store) (node : Node) : s.KeptBy (s.insert node).1 ∧
    (s.insert node).1.Shows s.records.size [(s.insert node).2] [node] := by
  cases node with
  | mk kind value language info opening closing children =>
    obtain ⟨hkept, hsome, hshows⟩ := insertChildren_spec s children
    rw [insert]
    refine ⟨hkept.trans s _ _ (keptBy_add _ _), ?_⟩
    exact Shows.add (s.insertChildren children).1 s.records.size _ children hsome hshows

/-- The children of a node are inserted behind the objects that are there. -/
theorem insertChildren_spec (s : Store) (children : Option (List Node)) :
    s.KeptBy (s.insertChildren children).1 ∧
    children.isSome = (s.insertChildren children).2.isSome ∧
    (s.insertChildren children).1.Shows s.records.size
      ((s.insertChildren children).2.getD []) (children.getD []) := by
  cases children with
  | none =>
    rw [insertChildren]
    exact ⟨.refl s, rfl, shows_nil s⟩
  | some nodes =>
    obtain ⟨hkept, hshows⟩ := insertAll_spec s nodes
    rw [insertChildren]
    exact ⟨hkept, rfl, hshows⟩

/-- Trees are inserted one behind the other. -/
theorem insertAll_spec (s : Store) (nodes : List Node) : s.KeptBy (s.insertAll nodes).1 ∧
    (s.insertAll nodes).1.Shows s.records.size (s.insertAll nodes).2 nodes := by
  cases nodes with
  | nil =>
    rw [insertAll]
    exact ⟨.refl s, shows_nil s⟩
  | cons node rest =>
    obtain ⟨hkept, hshows⟩ := insert_spec s node
    obtain ⟨hkept', hshows'⟩ := insertAll_spec (s.insert node).1 rest
    rw [insertAll]
    exact ⟨hkept.trans s _ _ hkept', hshows.cons _ _ _ _ _ node rest hshows' hkept'⟩

end

/-- The document of an inserted tree is a tree. -/
theorem isTree_insert (node : Node) : (insert {} node).1.IsTree (insert {} node).2 := by
  obtain ⟨-, hshows⟩ := insert_spec {} node
  -- The objects of the places are those of a row that the tree is alone in.
  have hrow : ((insert {} node).1.visits (insert {} node).2).map Visit.node =
      (Occurrence.preorderAll 0 0 ([(insert {} node).2].map
        ((insert {} node).1.occurrence (insert {} node).1.records.size))).map Visit.node := by
    rw [visits, Occurrence.visits_eq_preorder, List.map_cons, List.map_nil, Occurrence.preorderAll,
      Occurrence.preorderAll, List.append_nil, Occurrence.map_node_preorder none, unfold]
  constructor
  · intro v hv
    have hm := List.mem_map_of_mem (f := Visit.node) hv
    rw [hrow] at hm
    obtain ⟨w, hw, he⟩ := List.mem_map.mp hm
    exact he ▸ (hshows.within _ (.refl _) _ 0 0 w hw).2
  · rw [hrow]
    exact hshows.once _ (.refl _) _ 0 0

/-- An inserted tree reads back as it was. -/
theorem tree_insert (node : Node) : (insert {} node).1.tree (insert {} node).2 = node := by
  have htrees := (insert_spec {} node).2.trees _ (.refl _) (insert {} node).1.records.size
    (Nat.le_add_left _ _)
  rw [List.map_cons, List.map_nil, List.cons.injEq] at htrees
  exact htrees.1

end CodeHighlight.Store
