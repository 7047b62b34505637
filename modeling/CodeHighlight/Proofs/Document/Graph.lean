import CodeHighlight.Proofs.Document.Splice

/-!
# Documents with shared objects

An object may stand in several slots, as long as no object lies below itself. No way down is then
longer than the store has objects, so the walk cuts nothing off: it visits every slot of every
object below the topmost one.
-/

namespace CodeHighlight.Store

/-- Below `root` every object is known to the store, and none lies below itself. -/
structure IsAcyclic (s : Store) (root : NodeId) : Prop where
  known : ∀ n, s.Below root n → n < s.records.size
  noReturn : ∀ n, s.Below root n → ¬ Relation.TransGen s.Child n n

/-- Where the children of every object have higher numbers, no object lies below itself. -/
theorem isAcyclic_of_ascending (s : Store) (root : NodeId) (hroot : root < s.records.size)
    (h : ∀ n < s.records.size, ∀ c ∈ s.childIds n, n < c ∧ c < s.records.size) :
    s.IsAcyclic root := by
  have hchild : ∀ n c, s.Child n c → n < c ∧ c < s.records.size := by
    intro n c hc
    obtain ⟨i, hi⟩ := List.mem_iff_getElem?.mp hc
    exact h n (s.lt_size_of_mem_childIds n i c hi) c hc
  constructor
  · intro n hn
    rcases hn.cases_tail with rfl | ⟨m, -, hmn⟩
    · exact hroot
    · exact (hchild m n hmn).2
  · intro n _ hreturn
    have hlt : ∀ c, Relation.TransGen s.Child n c → n < c := by
      intro c hc
      induction hc with
      | single hnc => exact (hchild n _ hnc).1
      | tail _ hcd ih => exact Nat.lt_trans ih (hchild _ _ hcd).1
    exact Nat.lt_irrefl n (hlt n hreturn)

/-- Distinct objects that lie above one another, on a way from `root` down to `n`. -/
private structure LiesAbove (s : Store) (root : NodeId) (above : List NodeId) (n : NodeId) :
    Prop where
  below : s.Below root n
  leads : ∀ a ∈ above, s.Below root a ∧ Relation.TransGen s.Child a n
  nodup : above.Nodup

/-- One step further down, the object itself lies above as well. -/
private theorem LiesAbove.child (s : Store) (root : NodeId) (h : s.IsAcyclic root)
    (above : List NodeId) (n c : NodeId) (ha : LiesAbove s root above n) (hc : s.Child n c) :
    LiesAbove s root (n :: above) c where
  below := ha.below.tail hc
  leads a hmem := by
    rcases List.mem_cons.mp hmem with rfl | hmem
    · exact ⟨ha.below, .single hc⟩
    · exact ⟨(ha.leads a hmem).1, (ha.leads a hmem).2.tail hc⟩
  nodup := List.nodup_cons.mpr ⟨fun hm => h.noReturn n ha.below (ha.leads n hm).2, ha.nodup⟩

/-- Objects that lie above one another, and an object below them, are fewer than the store has. -/
private theorem LiesAbove.length_lt (s : Store) (root : NodeId) (h : s.IsAcyclic root)
    (above : List NodeId) (n : NodeId) (ha : LiesAbove s root above n) :
    above.length < s.records.size := by
  have hnot : n ∉ above := fun hm => h.noReturn n ha.below (ha.leads n hm).2
  have hsub : n :: above ⊆ List.range s.records.size := by
    intro m hm
    rw [List.mem_range]
    rcases List.mem_cons.mp hm with rfl | hm
    · exact h.known m ha.below
    · exact h.known m (ha.leads m hm).1
  have hle := (List.nodup_cons.mpr ⟨hnot, ha.nodup⟩).length_le_of_subset hsub
  rwa [List.length_cons, List.length_range] at hle

/-- The depth at which trees are cut off makes no difference as long as the levels left and the
objects above are together no fewer than the objects of the store. -/
private theorem occurrence_congr (s : Store) (root : NodeId) (h : s.IsAcyclic root)
    (depth depth' : Nat) (n : NodeId) (above : List NodeId) (ha : LiesAbove s root above n)
    (hsize : s.records.size ≤ depth + above.length)
    (hsize' : s.records.size ≤ depth' + above.length) :
    s.occurrence depth n = s.occurrence depth' n := by
  have hlt := ha.length_lt s root h
  induction depth generalizing depth' n above with
  | zero => omega
  | succ depth ih =>
    obtain ⟨depth', rfl⟩ : ∃ k, depth' = k + 1 := ⟨depth' - 1, by omega⟩
    rw [occurrence_succ, occurrence_succ]
    congr 1
    apply List.map_congr_left
    intro c hc
    have hchild := ha.child s root h above n c hc
    apply ih depth' c (n :: above) hchild
    · rw [List.length_cons]
      omega
    · rw [List.length_cons]
      omega
    · exact hchild.length_lt s root h

/-- Without cycles the tree of places below an object shows each child with all that lies below
it. -/
theorem IsAcyclic.unfold_eq (s : Store) (root : NodeId) (h : s.IsAcyclic root) (n : NodeId)
    (hn : s.Below root n) : s.unfold n = .mk n ((s.childIds n).map s.unfold) := by
  obtain ⟨depth, hdepth⟩ := Nat.exists_eq_succ_of_ne_zero (Nat.ne_zero_of_lt (h.known n hn))
  rw [unfold, hdepth, occurrence_succ]
  congr 1
  apply List.map_congr_left
  intro c hc
  have hself : LiesAbove s root [] n := ⟨hn, fun a ha => absurd ha List.not_mem_nil, List.nodup_nil⟩
  rw [unfold, hdepth]
  apply occurrence_congr s root h depth (depth + 1) c [n] (hself.child s root h [] n c hc)
  · rw [List.length_singleton]
    omega
  · rw [List.length_singleton]
    omega

/-- The walk visits the slots of all objects below the one where it begins. -/
private theorem mem_preorder_of_below (s : Store) (root : NodeId) (h : s.IsAcyclic root)
    (n m : NodeId) (hn : s.Below root n) (hm : s.Below n m) (i : Nat) (c : NodeId)
    (hc : (s.childIds m)[i]? = some c) (slot : Option Slot) :
    ⟨c, some ⟨m, i⟩⟩ ∈ Occurrence.preorder slot (s.unfold n) := by
  induction hm using Relation.ReflTransGen.head_induction_on generalizing slot with
  | refl =>
    rw [h.unfold_eq s root m hn, Occurrence.preorder, List.mem_cons, Occurrence.mem_preorderAll]
    refine .inr ⟨i, s.unfold c, ?_, ?_⟩
    · rw [List.getElem?_map, hc]
      rfl
    · have hself := Occurrence.mem_preorder_self (some ⟨m, i⟩) (s.unfold c)
      rw [unfold, node_occurrence] at hself
      rwa [Nat.zero_add]
  | @head n d hnd _ ih =>
    rw [h.unfold_eq s root n hn, Occurrence.preorder, List.mem_cons, Occurrence.mem_preorderAll]
    obtain ⟨j, hj⟩ := List.mem_iff_getElem?.mp hnd
    refine .inr ⟨j, s.unfold d, ?_, ih (hn.tail hnd) _⟩
    rw [List.getElem?_map, hj]
    rfl

/-- The walk visits exactly the slots of the objects below the topmost one. -/
theorem IsAcyclic.mem_visits_iff (s : Store) (root : NodeId) (h : s.IsAcyclic root) (c : NodeId)
    (slot : Slot) :
    ⟨c, some slot⟩ ∈ s.visits root ↔
      s.Below root slot.parent ∧ (s.childIds slot.parent)[slot.index]? = some c := by
  constructor
  · intro hv
    exact slot_of_mem_visits s root _ slot hv rfl
  · rintro ⟨hbelow, hc⟩
    rw [visits, Occurrence.visits_eq_preorder]
    exact mem_preorder_of_below s root h root slot.parent .refl hbelow slot.index c hc none

end CodeHighlight.Store
