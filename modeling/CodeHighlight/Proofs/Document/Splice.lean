import CodeHighlight.Highlighter
import CodeHighlight.Proofs.Document.Preorder

/-!
# Splicing markup into a store

What a store holds after an object is put or added, and what splicing finished markup into a slot
does: it succeeds exactly where the block still stands in its slot, and then the slot holds the
added objects, one for each part.
-/

namespace CodeHighlight

namespace NodeRecord

/-- An object that holds finished markup. -/
def html (text : String) : NodeRecord := { kind := Node.htmlKind, value := some text }

/-- An object with other children; an object without children stays without. -/
def mapChildren (f : List NodeId → List NodeId) (r : NodeRecord) : NodeRecord :=
  { r with children := r.children.map f }

/-- Changes of the children follow one another. -/
theorem mapChildren_mapChildren (f g : List NodeId → List NodeId) (r : NodeRecord) :
    (r.mapChildren f).mapChildren g = r.mapChildren (g ∘ f) := by
  simp [mapChildren]

/-- Only what becomes of the children that are there counts. -/
theorem mapChildren_congr (f g : List NodeId → List NodeId) (r : NodeRecord)
    (h : ∀ ids, r.children = some ids → f ids = g ids) : r.mapChildren f = r.mapChildren g := by
  cases hc : r.children with
  | none => simp [mapChildren, hc]
  | some ids => simp [mapChildren, hc, h ids hc]

/-- An object without its children. -/
def bare (r : NodeRecord) : NodeRecord := { r with children := none }

/-- All fields apart from the children are kept. -/
@[simp] theorem bare_mapChildren (f : List NodeId → List NodeId) (r : NodeRecord) :
    (r.mapChildren f).bare = r.bare := rfl

end NodeRecord

namespace Store

/-- A number without an object counts as an empty node. -/
theorem get_of_size_le (s : Store) (n : NodeId) (h : s.records.size ≤ n) :
    s.get n = default := by
  simp [get, get?, Array.getElem?_eq_none h]

/-- An object with children is known to the store. -/
theorem lt_size_of_mem_childIds (s : Store) (n : NodeId) (i : Nat) (c : NodeId)
    (h : (s.childIds n)[i]? = some c) : n < s.records.size := by
  apply Nat.lt_of_not_le
  intro hn
  rw [childIds, get_of_size_le s n hn] at h
  cases h

/-- The number of objects is kept. -/
@[simp] theorem size_put (s : Store) (n : NodeId) (r : NodeRecord) :
    (s.put n r).records.size = s.records.size := by
  simp [put]

/-- What is put under a number is found there. -/
theorem get_put_self (s : Store) (n : NodeId) (r : NodeRecord) (h : n < s.records.size) :
    (s.put n r).get n = r := by
  simp [get, get?, put, h]

/-- Other numbers keep their objects. -/
theorem get_put_of_ne (s : Store) (n m : NodeId) (r : NodeRecord) (h : n ≠ m) :
    (s.put n r).get m = s.get m := by
  simp [get, get?, put, h]

/-- Adds finished markup, one object for each part. -/
def addHtml (s : Store) (parts : List String) : Store :=
  ⟨s.records ++ (parts.map NodeRecord.html).toArray⟩

/-- The numbers of the added objects follow those in use. -/
def freshIds (s : Store) (parts : List String) : List NodeId :=
  List.range' s.records.size parts.length

/-- One object more for each part. -/
@[simp] theorem size_addHtml (s : Store) (parts : List String) :
    (s.addHtml parts).records.size = s.records.size + parts.length := by
  simp [addHtml]

/-- The objects in use are kept. -/
theorem get_addHtml_of_lt (s : Store) (parts : List String) (n : NodeId)
    (h : n < s.records.size) : (s.addHtml parts).get n = s.get n := by
  simp [get, get?, addHtml, Array.getElem?_append_left h]

/-- Each added object holds its part. -/
theorem get_addHtml_fresh (s : Store) (parts : List String) (p : NodeId × String)
    (h : p ∈ (s.freshIds parts).zip parts) : (s.addHtml parts).get p.1 = .html p.2 := by
  obtain ⟨i, hi, hp⟩ := List.mem_iff_getElem.mp h
  rw [List.getElem_zip] at hp
  subst p
  rw [List.length_zip] at hi
  have hl : i < parts.length := by omega
  simp [get, get?, addHtml, freshIds, hl]

/-- Added objects have no children and are no one's children yet. -/
theorem childIds_addHtml (s : Store) (parts : List String) (n : NodeId) :
    (s.addHtml parts).childIds n = s.childIds n := by
  by_cases hn : n < s.records.size
  · rw [childIds, get_addHtml_of_lt s parts n hn, childIds]
  · have hle := Nat.le_of_not_lt hn
    have old : s.childIds n = [] := by rw [childIds, get_of_size_le s n hle]; rfl
    obtain ⟨k, rfl⟩ := Nat.exists_eq_add_of_le hle
    rw [old, childIds]
    by_cases hk : k < parts.length
    · have hmem : (s.records.size + k, parts[k]) ∈ (s.freshIds parts).zip parts := by
        apply List.mem_iff_getElem.mpr
        refine ⟨k, ?_, ?_⟩
        · simpa [freshIds] using hk
        · simp [freshIds]
      rw [get_addHtml_fresh s parts _ hmem]
      rfl
    · have hout : (s.addHtml parts).records.size ≤ s.records.size + k := by
        rw [size_addHtml]
        exact Nat.add_le_add_left (Nat.le_of_not_lt hk) _
      rw [get_of_size_le _ _ hout]
      rfl

private theorem foldl_add (fresh : List NodeRecord) (s : Store) (ids : List NodeId) :
    fresh.foldl (fun (s, ids) r => let (s, id) := add s r; (s, ids ++ [id])) (s, ids) =
      (⟨s.records ++ fresh.toArray⟩, ids ++ List.range' s.records.size fresh.length) := by
  induction fresh generalizing s ids with
  | nil => simp
  | cons r rest ih =>
    rw [List.foldl_cons, ih]
    simp [add, List.range'_succ]

/-- A block is replaced by adding the markup and splicing it in. -/
theorem replaceBlock_eq (s : Store) (block : NodeId × Slot) (parts : List String) :
    Highlighter.replaceBlock s block parts =
      (s.addHtml parts).splice ⟨block.1, block.2.parent, block.2.index⟩ (s.freshIds parts) := by
  rw [Highlighter.replaceBlock]
  simp only []
  rw [foldl_add]
  simp only [List.nil_append, List.length_map]
  rfl

/-- An index that is not negative counts from the front. -/
theorem childAt_natCast (children : List NodeId) (i : Nat) :
    childAt children i = match children[i]? with
      | some n => .ok n
      | none => .error .moved := by
  have hi : ¬ (i : Int) < 0 := by omega
  cases hget : children[i]? with
  | none => simp [childAt, hi, hget]
  | some n => simp [childAt, hi, hget]

/-- The child at an index that is not negative gives way to the replacement. -/
theorem replaceSlice_natCast (children replacement : List NodeId) (i : Nat)
    (hi : i < children.length) :
    replaceSlice children replacement i =
      children.take i ++ replacement ++ children.drop (i + 1) := by
  have h0 : ¬ (i : Int) < 0 := by omega
  have h1 : ¬ (i : Int) + 1 < 0 := by omega
  have hs : (max 0 (min (children.length : Int) i)).toNat = i := by omega
  have ht : (max 0 (min (children.length : Int) (i + 1))).toNat = i + 1 := by omega
  simp only [replaceSlice, h0, h1, if_false, hs, ht]
  rw [Nat.max_eq_right (Nat.le_succ i)]

/-- Splicing succeeds where the block still stands. -/
theorem splice_of_stands (s : Store) (n parent : NodeId) (i : Nat) (children : List NodeId)
    (replacement : List NodeId) (hc : (s.get parent).children = some children)
    (hi : children[i]? = some n) :
    s.splice ⟨n, parent, i⟩ replacement = .ok (s.put parent ((s.get parent).mapChildren
      fun ids => ids.take i ++ replacement ++ ids.drop (i + 1))) := by
  have hl : i < children.length := (List.getElem?_eq_some_iff.mp hi).1
  simp only [splice, hc, childAt_natCast, hi, bind, Except.bind, if_true, NodeRecord.mapChildren,
    Option.map_some, replaceSlice_natCast children replacement i hl]
  rfl

/-- Splicing fails where another object stands. -/
theorem splice_of_moved (s : Store) (n parent : NodeId) (i : Nat) (replacement : List NodeId)
    (h : (s.childIds parent)[i]? ≠ some n) :
    s.splice ⟨n, parent, i⟩ replacement = .error .moved := by
  rw [childIds] at h
  cases hc : (s.get parent).children with
  | none => simp [splice, hc]
  | some children =>
    rw [hc, Option.getD_some] at h
    cases hi : children[i]? with
    | none => simp [splice, hc, childAt_natCast, hi, bind, Except.bind]
    | some m =>
      rw [hi] at h
      have hm : m ≠ n := fun e => h (e ▸ rfl)
      simp [splice, hc, childAt_natCast, hi, bind, Except.bind, hm]

/-- The store in which the child of a slot has given way to objects that hold the parts. -/
def spliced (s : Store) (slot : Slot) (parts : List String) : Store :=
  (s.addHtml parts).put slot.parent ((s.get slot.parent).mapChildren
    fun ids => ids.take slot.index ++ s.freshIds parts ++ ids.drop (slot.index + 1))

/-- A block that stands in its slot is replaced. -/
theorem replaceBlock_of_stands (s : Store) (n : NodeId) (slot : Slot) (parts : List String)
    (hi : (s.childIds slot.parent)[slot.index]? = some n) :
    Highlighter.replaceBlock s (n, slot) parts = .ok (s.spliced slot parts) := by
  have hp := s.lt_size_of_mem_childIds slot.parent slot.index n hi
  have hget := s.get_addHtml_of_lt parts slot.parent hp
  obtain ⟨ids, hids⟩ : ∃ ids, (s.get slot.parent).children = some ids := by
    cases hc : (s.get slot.parent).children with
    | none =>
      rw [childIds, hc] at hi
      cases hi
    | some ids => exact ⟨ids, rfl⟩
  rw [childIds, hids, Option.getD_some] at hi
  rw [replaceBlock_eq, splice_of_stands _ n slot.parent slot.index ids _ (hget ▸ hids) hi, hget]
  rfl

/-- A block that does not stand in its slot any more is not replaced. -/
theorem replaceBlock_of_moved (s : Store) (n : NodeId) (slot : Slot) (parts : List String)
    (hi : (s.childIds slot.parent)[slot.index]? ≠ some n) :
    Highlighter.replaceBlock s (n, slot) parts = .error .moved := by
  rw [replaceBlock_eq, splice_of_moved]
  rwa [childIds_addHtml]

/-- A replacement is a splice. -/
theorem eq_spliced_of_replaceBlock (s next : Store) (n : NodeId) (slot : Slot)
    (parts : List String) (h : Highlighter.replaceBlock s (n, slot) parts = .ok next) :
    next = s.spliced slot parts := by
  by_cases hi : (s.childIds slot.parent)[slot.index]? = some n
  · rw [replaceBlock_of_stands s n slot parts hi] at h
    cases h
    rfl
  · rw [replaceBlock_of_moved s n slot parts hi] at h
    cases h

/-- A replacement fails only where another object stands. -/
theorem eq_moved_of_replaceBlock (s : Store) (n : NodeId) (slot : Slot) (parts : List String)
    (fault : SpliceFault) (h : Highlighter.replaceBlock s (n, slot) parts = .error fault) :
    fault = .moved := by
  by_cases hi : (s.childIds slot.parent)[slot.index]? = some n
  · rw [replaceBlock_of_stands s n slot parts hi] at h
    cases h
  · rw [replaceBlock_of_moved s n slot parts hi] at h
    cases h
    rfl

/-- One object more for each part. -/
@[simp] theorem size_spliced (s : Store) (slot : Slot) (parts : List String) :
    (s.spliced slot parts).records.size = s.records.size + parts.length := by
  rw [spliced, size_put, size_addHtml]

/-- The parent has the fresh objects among its children. -/
theorem get_spliced_parent (s : Store) (slot : Slot) (parts : List String)
    (h : slot.parent < s.records.size) :
    (s.spliced slot parts).get slot.parent = (s.get slot.parent).mapChildren
      fun ids => ids.take slot.index ++ s.freshIds parts ++ ids.drop (slot.index + 1) := by
  rw [spliced, get_put_self]
  rw [size_addHtml]
  exact Nat.lt_of_lt_of_le h (Nat.le_add_right _ _)

/-- Every other object stays as it is. -/
theorem get_spliced_of_ne (s : Store) (slot : Slot) (parts : List String) (n : NodeId)
    (hn : n < s.records.size) (h : slot.parent ≠ n) :
    (s.spliced slot parts).get n = s.get n := by
  rw [spliced, get_put_of_ne _ _ _ _ h, get_addHtml_of_lt s parts n hn]

/-- No object loses a field. -/
theorem bare_get_spliced (s : Store) (slot : Slot) (parts : List String) (n : NodeId)
    (hn : n < s.records.size) : ((s.spliced slot parts).get n).bare = (s.get n).bare := by
  by_cases h : slot.parent = n
  · subst n
    rw [get_spliced_parent s slot parts hn, NodeRecord.bare_mapChildren]
  · rw [get_spliced_of_ne s slot parts n hn h]

/-- Each fresh object holds its part. -/
theorem get_spliced_fresh (s : Store) (slot : Slot) (parts : List String) (p : NodeId × String)
    (h : slot.parent < s.records.size) (hp : p ∈ (s.freshIds parts).zip parts) :
    s.records.size ≤ p.1 ∧ p.1 < (s.spliced slot parts).records.size ∧
      (s.spliced slot parts).get p.1 = .html p.2 := by
  have hmem : p.1 ∈ s.freshIds parts := (List.of_mem_zip (show (p.1, p.2) ∈ _ from hp)).1
  rw [freshIds, List.mem_range'_1] at hmem
  refine ⟨hmem.1, ?_, ?_⟩
  · rw [size_spliced]
    exact hmem.2
  · have hne : slot.parent ≠ p.1 := Nat.ne_of_lt (Nat.lt_of_lt_of_le h hmem.1)
    rw [spliced, get_put_of_ne _ _ _ _ hne, get_addHtml_fresh s parts p hp]

end Store

end CodeHighlight
