import CodeHighlight.Proofs.Document.Splice

/-!
# Replacing blocks from the highest index down

A splice shifts the children behind its slot, so that recorded indices no longer say where a child
stands. Going from the highest index down, every index that is still to come lies before all
replaced slots of its parent and says what it said at the beginning. `Rewritten` is the invariant:
each object of the beginning keeps its fields, and its children are the old ones with the replaced
slots exchanged. It holds of any store, also where an object stands in several slots.
-/

namespace CodeHighlight

/-- What took the place of each replaced slot: fresh objects, each with its markup. -/
abbrev Replaced := Slot → Option (List (NodeId × String))

/-- A block with the parts that are to take its place, if there are any. -/
abbrev Outcome := (NodeId × Slot) × Option (List String)

namespace Replaced

/-- One slot more is replaced. -/
def update (done : Replaced) (slot : Slot) (ids : List (NodeId × String)) : Replaced :=
  fun t => if t = slot then some ids else done t

/-- The markup that stands in a replaced slot. -/
def texts? (done : Replaced) (slot : Slot) : Option (List String) :=
  (done slot).map (·.map Prod.snd)

/-- Every object that took a place stands there alone. -/
structure Apart (done : Replaced) : Prop where
  nodup : ∀ t ids, done t = some ids → (ids.map Prod.fst).Nodup
  disjoint : ∀ t t' ids ids', done t = some ids → done t' = some ids' → t ≠ t' →
    ∀ n ∈ ids.map Prod.fst, n ∉ ids'.map Prod.fst

/-- What stands now where `parent` had a list of children, the first of them at `index`. -/
def children (done : Replaced) (parent : NodeId) (index : Nat) : List NodeId → List NodeId
  | [] => []
  | n :: rest =>
    ((done ⟨parent, index⟩).elim [n] (·.map Prod.fst)) ++ children done parent (index + 1) rest

/-- Lists of children are exchanged piece by piece. -/
theorem children_append (done : Replaced) (parent : NodeId) (index : Nat) (a b : List NodeId) :
    done.children parent index (a ++ b) =
      done.children parent index a ++ done.children parent (index + a.length) b := by
  induction a generalizing index with
  | nil => rfl
  | cons n rest ih =>
    rw [List.cons_append, children, ih, children, List.append_assoc, List.length_cons,
      Nat.add_assoc, Nat.add_comm 1]

/-- Only the slots of the list count. -/
theorem children_congr (done done' : Replaced) (parent : NodeId) (index : Nat) (ids : List NodeId)
    (h : ∀ i, index ≤ i → i < index + ids.length → done ⟨parent, i⟩ = done' ⟨parent, i⟩) :
    done.children parent index ids = done'.children parent index ids := by
  induction ids generalizing index with
  | nil => rfl
  | cons n rest ih =>
    rw [List.length_cons] at h
    rw [children, children, h index (Nat.le_refl _) (by omega), ih]
    intro i hi hl
    exact h i (by omega) (by omega)

/-- A list without replaced slots stays. -/
theorem children_of_none (done : Replaced) (parent : NodeId) (index : Nat) (ids : List NodeId)
    (h : ∀ i, index ≤ i → i < index + ids.length → done ⟨parent, i⟩ = none) :
    done.children parent index ids = ids := by
  induction ids generalizing index with
  | nil => rfl
  | cons n rest ih =>
    rw [List.length_cons] at h
    rw [children, h index (Nat.le_refl _) (by omega), ih]
    · rfl
    · intro i hi hl
      exact h i (by omega) (by omega)

/-- No slot before `index` is replaced below `parent`. -/
def KeepsBefore (done : Replaced) (parent : NodeId) (index : Nat) : Prop :=
  ∀ i, i < index → done ⟨parent, i⟩ = none

/-- Up to an index that no replaced slot precedes, a list is as it was; behind it stands what took
the place of the slot, or the old child. -/
theorem children_split (done : Replaced) (parent : NodeId) (ids : List NodeId) (i : Nat)
    (n : NodeId) (hk : done.KeepsBefore parent i) (hi : ids[i]? = some n) :
    done.children parent 0 ids = ids.take i ++ ((done ⟨parent, i⟩).elim [n] (·.map Prod.fst) ++
      done.children parent (i + 1) (ids.drop (i + 1))) := by
  obtain ⟨hl, hn⟩ := List.getElem?_eq_some_iff.mp hi
  have hlen : (ids.take i).length = i := by rw [List.length_take]; omega
  have hids : ids = ids.take i ++ n :: ids.drop (i + 1) := by
    rw [← hn, ← List.drop_eq_getElem_cons hl, List.take_append_drop]
  have front : done.children parent 0 (ids.take i) = ids.take i := by
    apply children_of_none
    intro j _ hj
    exact hk j (by omega)
  calc done.children parent 0 ids
      = done.children parent 0 (ids.take i ++ n :: ids.drop (i + 1)) := by rw [← hids]
    _ = _ := by rw [children_append, front, hlen, Nat.zero_add, children]

/-- Replacing a slot behind which all earlier replacements lie is one splice of the list. -/
theorem children_update (done : Replaced) (parent : NodeId) (ids : List NodeId) (i : Nat)
    (n : NodeId) (fresh : List (NodeId × String)) (hk : done.KeepsBefore parent i)
    (hd : done ⟨parent, i⟩ = none) (hi : ids[i]? = some n) :
    (done.update ⟨parent, i⟩ fresh).children parent 0 ids =
      (done.children parent 0 ids).take i ++ fresh.map Prod.fst ++
        (done.children parent 0 ids).drop (i + 1) := by
  have hl := (List.getElem?_eq_some_iff.mp hi).1
  have hlen : (ids.take i).length = i := by rw [List.length_take]; omega
  have hk' : (done.update ⟨parent, i⟩ fresh).KeepsBefore parent i := by
    intro j hj
    have hne : (⟨parent, j⟩ : Slot) ≠ ⟨parent, i⟩ := by
      rw [Ne, Slot.mk.injEq]
      omega
    rw [update, if_neg hne, hk j hj]
  have back : (done.update ⟨parent, i⟩ fresh).children parent (i + 1) (ids.drop (i + 1)) =
      done.children parent (i + 1) (ids.drop (i + 1)) := by
    apply children_congr
    intro j hj _
    have hne : (⟨parent, j⟩ : Slot) ≠ ⟨parent, i⟩ := by
      rw [Ne, Slot.mk.injEq]
      omega
    rw [update, if_neg hne]
  rw [children_split _ parent ids i n hk' hi, children_split done parent ids i n hk hi, hd, back]
  have hu : done.update ⟨parent, i⟩ fresh ⟨parent, i⟩ = some fresh := by simp [update]
  have hone : (ids.take i ++ [n]).length = i + 1 := by rw [List.length_append, hlen]; rfl
  rw [hu, Option.elim_some, Option.elim_none, List.take_left' hlen, ← List.append_assoc _ [n],
    List.drop_left' hone, List.append_assoc]

/-- The child at a slot without earlier replacements is the old one unless the slot is replaced. -/
theorem getElem?_children (done : Replaced) (parent : NodeId) (ids : List NodeId) (i : Nat)
    (n : NodeId) (hk : done.KeepsBefore parent i) (hi : ids[i]? = some n) :
    (done.children parent 0 ids)[i]? = ((done ⟨parent, i⟩).elim [n] (·.map Prod.fst) ++
      done.children parent (i + 1) (ids.drop (i + 1)))[0]? := by
  have hl := (List.getElem?_eq_some_iff.mp hi).1
  have hlen : (ids.take i).length = i := by rw [List.length_take]; omega
  rw [children_split done parent ids i n hk hi, List.getElem?_append_right (by omega), hlen,
    Nat.sub_self]

end Replaced

namespace Store

/-- `after` holds the objects of `before`, their children exchanged in the replaced slots, and the
fresh objects that stand there. -/
structure Rewritten (before : Store) (done : Replaced) (after : Store) : Prop where
  size_le : before.records.size ≤ after.records.size
  get_old : ∀ n, n < before.records.size →
    after.get n = (before.get n).mapChildren (done.children n 0)
  fresh : ∀ t ids, done t = some ids → ids ≠ [] ∧ ∀ p ∈ ids,
    before.records.size ≤ p.1 ∧ p.1 < after.records.size ∧ after.get p.1 = .html p.2

/-- At the beginning nothing is replaced. -/
theorem rewritten_refl (s : Store) : s.Rewritten (fun _ => none) s where
  size_le := Nat.le_refl _
  get_old := by
    intro n _
    have same : (s.get n).mapChildren id = s.get n := by simp [NodeRecord.mapChildren]
    rw [← NodeRecord.mapChildren_congr id _ _ fun ids _ =>
      (Replaced.children_of_none (fun _ => none) n 0 ids fun _ _ _ => rfl).symm, same]
  fresh := by
    intro t ids h
    cases h

/-- The block stood in its slot at the beginning. -/
def Stands (s : Store) (block : NodeId × Slot) : Prop :=
  (s.childIds block.2.parent)[block.2.index]? = some block.1 ∧ block.1 < s.records.size

/-- Tries to put the parts of an outcome in the place of its block. -/
def place? (s : Store) (o : Outcome) : Option Store :=
  o.2.bind fun parts => (Highlighter.replaceBlock s o.1 parts).toOption

/-- What a successful placement leaves is a splice. -/
theorem eq_spliced_of_place? (s next : Store) (o : Outcome) (h : s.place? o = some next) :
    ∃ parts, o.2 = some parts ∧ next = s.spliced o.1.2 parts := by
  rw [place?, Option.bind_eq_some_iff] at h
  obtain ⟨parts, hparts, h⟩ := h
  refine ⟨parts, hparts, ?_⟩
  cases hr : Highlighter.replaceBlock s o.1 parts with
  | error fault =>
    rw [hr] at h
    cases h
  | ok store =>
    rw [hr] at h
    cases h
    exact eq_spliced_of_replaceBlock s _ o.1.1 o.1.2 parts hr

/-- An attempt to place an outcome loses no object. -/
theorem size_le_place (s : Store) (o : Outcome) :
    s.records.size ≤ ((s.place? o).getD s).records.size := by
  cases h : s.place? o with
  | none => exact Nat.le_refl _
  | some next =>
    obtain ⟨parts, -, rfl⟩ := eq_spliced_of_place? s next o h
    rw [Option.getD_some, size_spliced]
    exact Nat.le_add_right _ _

/-- An attempt to place an outcome keeps all fields of an object apart from its children. -/
theorem bare_get_place (s : Store) (o : Outcome) (n : NodeId) (hn : n < s.records.size) :
    (((s.place? o).getD s).get n).bare = (s.get n).bare := by
  cases h : s.place? o with
  | none => rfl
  | some next =>
    obtain ⟨parts, -, rfl⟩ := eq_spliced_of_place? s next o h
    rw [Option.getD_some, bare_get_spliced s _ parts n hn]

/-- Puts the parts of outcomes in the places of their blocks, one after the other. -/
def placeAll (s : Store) : List Outcome → Store
  | [] => s
  | o :: rest => ((s.place? o).getD s).placeAll rest

/-- Outcomes are placed one after the other. -/
theorem placeAll_append (s : Store) (front back : List Outcome) :
    s.placeAll (front ++ back) = (s.placeAll front).placeAll back := by
  induction front generalizing s with
  | nil => rfl
  | cons o rest ih => rw [List.cons_append, placeAll, ih, placeAll]

private theorem childIds_rewritten (before after : Store) (done : Replaced)
    (h : before.Rewritten done after) (n : NodeId) (hn : n < before.records.size) :
    after.childIds n = done.children n 0 (before.childIds n) := by
  rw [childIds, h.get_old n hn, NodeRecord.mapChildren, childIds]
  cases (before.get n).children with
  | none => rfl
  | some ids => rfl

private theorem map_fst_freshIds (s : Store) (parts : List String) :
    ((s.freshIds parts).zip parts).map Prod.fst = s.freshIds parts :=
  List.map_fst_zip (by simp [freshIds])

private theorem map_snd_freshIds (s : Store) (parts : List String) :
    ((s.freshIds parts).zip parts).map Prod.snd = parts :=
  List.map_snd_zip (by simp [freshIds])

/-- An object of the beginning after a splice: the children of the parent lose one more slot, and
those of any other object stay. -/
theorem Rewritten.get_spliced (before after : Store) (done : Replaced)
    (h : before.Rewritten done after) (n : NodeId) (slot : Slot) (parts : List String)
    (hb : before.Stands (n, slot)) (hk : done.KeepsBefore slot.parent slot.index)
    (hd : done slot = none) (m : NodeId) (hm : m < before.records.size) :
    (after.spliced slot parts).get m = (before.get m).mapChildren
      ((done.update slot ((after.freshIds parts).zip parts)).children m 0) := by
  have hparent := before.lt_size_of_mem_childIds slot.parent slot.index n hb.1
  by_cases hmp : m = slot.parent
  · subst m
    rw [get_spliced_parent after slot parts (Nat.lt_of_lt_of_le hparent h.size_le),
      h.get_old _ hparent, NodeRecord.mapChildren_mapChildren]
    apply NodeRecord.mapChildren_congr
    intro old hold
    have hi : old[slot.index]? = some n := by
      have := hb.1
      rwa [childIds, hold, Option.getD_some] at this
    rw [Function.comp_apply,
      Replaced.children_update done slot.parent old slot.index n _ hk hd hi, map_fst_freshIds]
  · rw [get_spliced_of_ne after slot parts m (Nat.lt_of_lt_of_le hm h.size_le) (Ne.symm hmp),
      h.get_old m hm]
    apply NodeRecord.mapChildren_congr
    intro old _
    apply Replaced.children_congr
    intro j _ _
    have hne : (⟨m, j⟩ : Slot) ≠ slot := fun e => hmp (congrArg Slot.parent e)
    rw [Replaced.update, if_neg hne]

/-- Splicing into a slot that is not replaced yet replaces that slot as well. -/
theorem Rewritten.spliced (before after : Store) (done : Replaced)
    (h : before.Rewritten done after) (n : NodeId) (slot : Slot) (parts : List String)
    (hb : before.Stands (n, slot)) (hk : done.KeepsBefore slot.parent slot.index)
    (hd : done slot = none) (hp : parts ≠ []) :
    before.Rewritten (done.update slot ((after.freshIds parts).zip parts))
      (after.spliced slot parts) := by
  have hparent := before.lt_size_of_mem_childIds slot.parent slot.index n hb.1
  constructor
  · rw [size_spliced]
    exact Nat.le_trans h.size_le (Nat.le_add_right _ _)
  · exact h.get_spliced before after done n slot parts hb hk hd
  · intro t fresh ht
    rw [Replaced.update] at ht
    by_cases hts : t = slot
    · rw [if_pos hts, Option.some.injEq] at ht
      subst fresh
      constructor
      · intro he
        have hparts := after.map_snd_freshIds parts
        rw [he, List.map_nil] at hparts
        exact hp hparts.symm
      · intro p hpm
        obtain ⟨hlow, hhigh, hget⟩ := get_spliced_fresh after slot parts p
          (Nat.lt_of_lt_of_le hparent h.size_le) hpm
        exact ⟨Nat.le_trans h.size_le hlow, hhigh, hget⟩
    · -- Objects that took a place before are none of the beginning, so no parent is among them.
      rw [if_neg hts] at ht
      obtain ⟨hne, hold⟩ := h.fresh t fresh ht
      refine ⟨hne, ?_⟩
      intro p hpm
      obtain ⟨hlow, hhigh, hget⟩ := hold p hpm
      have hpp : slot.parent ≠ p.1 := Nat.ne_of_lt (Nat.lt_of_lt_of_le hparent hlow)
      refine ⟨hlow, ?_, ?_⟩
      · rw [size_spliced]
        exact Nat.lt_of_lt_of_le hhigh (Nat.le_add_right _ _)
      · rw [get_spliced_of_ne after slot parts p.1 hhigh hpp, hget]

/-- The objects of a splice are new, so they stand nowhere else. -/
theorem Rewritten.apart (before after : Store) (done : Replaced) (h : before.Rewritten done after)
    (ha : done.Apart) (slot : Slot) (parts : List String) :
    (done.update slot ((after.freshIds parts).zip parts)).Apart := by
  have hold : ∀ t ids, done t = some ids → ∀ n ∈ ids.map Prod.fst, n < after.records.size := by
    intro t ids ht n hn
    obtain ⟨p, hp, rfl⟩ := List.mem_map.mp hn
    exact ((h.fresh t ids ht).2 p hp).2.1
  have hnew : ∀ n ∈ after.freshIds parts, after.records.size ≤ n := by
    intro n hn
    exact (List.mem_range'_1.mp hn).1
  constructor
  · intro t ids ht
    rw [Replaced.update] at ht
    split at ht
    · cases ht
      rw [map_fst_freshIds]
      exact List.nodup_range'
    · exact ha.nodup t ids ht
  · intro t t' ids ids' ht ht' hne n hn hn'
    rw [Replaced.update] at ht ht'
    split at ht
    · rename_i hts
      rw [if_neg fun e => hne (hts.trans e.symm)] at ht'
      cases ht
      rw [map_fst_freshIds] at hn
      exact Nat.not_lt.mpr (hnew n hn) (hold t' ids' ht' n hn')
    · split at ht'
      · cases ht'
        rw [map_fst_freshIds] at hn'
        exact Nat.not_lt.mpr (hnew n hn') (hold t ids ht n hn)
      · exact ha.disjoint t t' ids ids' ht ht' hne n hn hn'

/-- What stands in a slot that no replaced slot of its parent precedes. -/
theorem Rewritten.getElem?_childIds (before after : Store) (done : Replaced)
    (h : before.Rewritten done after) (n : NodeId) (slot : Slot) (hb : before.Stands (n, slot))
    (hk : done.KeepsBefore slot.parent slot.index) :
    (after.childIds slot.parent)[slot.index]? = some n ↔ done slot = none := by
  have hparent := before.lt_size_of_mem_childIds slot.parent slot.index n hb.1
  rw [childIds_rewritten before after done h slot.parent hparent,
    Replaced.getElem?_children done slot.parent _ slot.index n hk hb.1]
  cases hd : done slot with
  | none => simp
  | some ids =>
    -- A replaced slot holds a fresh object, which the block is not.
    obtain ⟨hne, hfresh⟩ := h.fresh slot ids hd
    obtain ⟨p, rest, rfl⟩ := List.exists_cons_of_ne_nil hne
    have hp := (hfresh p List.mem_cons_self).1
    have hpn : p.1 ≠ n := Nat.ne_of_gt (Nat.lt_of_lt_of_le hb.2 hp)
    simp [hpn]

/-- A block is replaced exactly if it has parts and its slot is not replaced yet. -/
theorem Rewritten.place? (before after : Store) (done : Replaced)
    (h : before.Rewritten done after) (o : Outcome) (hb : before.Stands o.1)
    (hk : done.KeepsBefore o.1.2.parent o.1.2.index) :
    after.place? o =
      if done o.1.2 = none then o.2.map fun parts => after.spliced o.1.2 parts else none := by
  obtain ⟨⟨n, slot⟩, parts⟩ := o
  have hiff := Rewritten.getElem?_childIds before after done h n slot hb hk
  cases parts with
  | none => simp [Store.place?]
  | some texts =>
    rw [Store.place?, Option.bind_some]
    by_cases hd : done slot = none
    · rw [replaceBlock_of_stands after n slot texts (hiff.mpr hd), if_pos hd]
      rfl
    · rw [replaceBlock_of_moved after n slot texts (fun e => hd (hiff.mp e)), if_neg hd]
      rfl

/-- The parts of the first outcome for a slot that has any. -/
def firstParts (outcomes : List Outcome) (slot : Slot) : Option (List String) :=
  outcomes.findSome? fun o => if o.1.2 = slot then o.2 else none

/-- A slot gets the parts of the first outcome if that is for it and has any. -/
theorem firstParts_cons (o : Outcome) (rest : List Outcome) (slot : Slot) :
    firstParts (o :: rest) slot =
      (if o.1.2 = slot then o.2 else none).or (firstParts rest slot) := by
  rw [firstParts, List.findSome?_cons, ← firstParts]
  cases (if o.1.2 = slot then o.2 else none) <;> rfl

/-- A slot without an outcome gets nothing. -/
theorem firstParts_of_not_mem (outcomes : List Outcome) (slot : Slot)
    (h : slot ∉ outcomes.map fun o => o.1.2) : firstParts outcomes slot = none := by
  apply List.findSome?_eq_none_iff.mpr
  intro o ho
  exact if_neg fun e => h (List.mem_map.mpr ⟨o, ho, e⟩)

/-- Where every outcome has parts, only a slot without an outcome gets nothing. -/
theorem firstParts_eq_none_iff (outcomes : List Outcome) (slot : Slot)
    (h : ∀ o ∈ outcomes, o.2 ≠ none) :
    firstParts outcomes slot = none ↔ slot ∉ outcomes.map fun o => o.1.2 := by
  constructor
  · intro hnone hmem
    obtain ⟨o, ho, he⟩ := List.mem_map.mp hmem
    have ho' := List.findSome?_eq_none_iff.mp hnone o ho
    rw [if_pos he] at ho'
    exact h o ho ho'
  · exact firstParts_of_not_mem outcomes slot

/-- Where every slot comes once, a slot gets what its own outcome has for it. -/
theorem firstParts_of_mem (outcomes : List Outcome) (o : Outcome) (ho : o ∈ outcomes)
    (hn : (outcomes.map fun o => o.1.2).Nodup) : firstParts outcomes o.1.2 = o.2 := by
  induction outcomes with
  | nil => cases ho
  | cons first rest ih =>
    obtain ⟨hfirst, hrest⟩ := List.nodup_cons.mp hn
    rw [firstParts_cons]
    rcases List.mem_cons.mp ho with rfl | ho
    · rw [if_pos rfl, firstParts_of_not_mem rest o.1.2 hfirst, Option.or_none]
    · have hne : first.1.2 ≠ o.1.2 := fun e => hfirst (List.mem_map.mpr ⟨o, ho, e.symm⟩)
      rw [if_neg hne, Option.none_or, ih ho hrest]

private theorem keepsBefore_update (done : Replaced) (slot : Slot) (ids : List (NodeId × String))
    (parent : NodeId) (index : Nat) (hk : done.KeepsBefore parent index)
    (hi : index ≤ slot.index) : (done.update slot ids).KeepsBefore parent index := by
  intro i hlt
  have hne : (⟨parent, i⟩ : Slot) ≠ slot := by
    intro e
    subst slot
    dsimp only at hi
    omega
  rw [Replaced.update, if_neg hne, hk i hlt]

/-- The markup of a newly replaced slot. -/
theorem texts?_update (done : Replaced) (s : Store) (slot t : Slot) (parts : List String) :
    (done.update slot ((s.freshIds parts).zip parts)).texts? t =
      if t = slot then some parts else done.texts? t := by
  rw [Replaced.texts?, Replaced.update]
  split
  · rw [Option.map_some, map_snd_freshIds]
  · rfl

/-- An attempt to place an outcome replaces its slot if the outcome has parts and the slot is not
replaced yet; no slot before it is touched. -/
theorem Rewritten.place (before after : Store) (done : Replaced) (h : before.Rewritten done after)
    (o : Outcome) (hb : before.Stands o.1) (hk : done.KeepsBefore o.1.2.parent o.1.2.index)
    (hp : o.2 ≠ some []) (ha : done.Apart) :
    ∃ next : Replaced, before.Rewritten next ((after.place? o).getD after) ∧
      (∀ t, next.texts? t = (done.texts? t).or (if o.1.2 = t then o.2 else none)) ∧ next.Apart ∧
      ∀ parent index, done.KeepsBefore parent index → index ≤ o.1.2.index →
        next.KeepsBefore parent index := by
  obtain ⟨⟨n, slot⟩, parts⟩ := o
  rw [Rewritten.place? before after done h _ hb hk]
  -- Where nothing is placed, the slots already replaced account for all that stands.
  have hstays (hnone : ∀ t, slot = t → (done.texts? t).or parts = done.texts? t) :
      ∀ t, done.texts? t = (done.texts? t).or (if slot = t then parts else none) := by
    intro t
    by_cases ht : slot = t
    · rw [if_pos ht, hnone t ht]
    · rw [if_neg ht, Option.or_none]
  cases parts with
  | none =>
    rw [Option.map_none, ite_self, Option.getD_none]
    exact ⟨done, h, hstays fun _ _ => Option.or_none, ha, fun _ _ hkeeps _ => hkeeps⟩
  | some texts =>
    cases hd : done slot with
    | some ids =>
      rw [if_neg (by simp), Option.getD_none]
      refine ⟨done, h, hstays ?_, ha, fun _ _ hkeeps _ => hkeeps⟩
      rintro t rfl
      rw [Replaced.texts?, hd, Option.map_some, Option.some_or]
    | none =>
      have hne : texts ≠ [] := fun e => hp (congrArg some e)
      rw [if_pos rfl, Option.map_some, Option.getD_some]
      refine ⟨_, Rewritten.spliced before after done h n slot texts hb hk hd hne, ?_,
        Rewritten.apart before after done h ha slot texts,
        fun parent index => keepsBefore_update done slot _ parent index⟩
      intro t
      rw [texts?_update]
      by_cases ht : slot = t
      · subst t
        rw [if_pos rfl, if_pos rfl, Replaced.texts?, hd, Option.map_none, Option.none_or]
      · rw [if_neg (Ne.symm ht), if_neg ht, Option.or_none]

/-- Outcomes that come in descending order of their indices replace each slot by the first parts
that they have for it. The induction is on the outcomes to come; that they lie before all replaced
slots of their parents is what carries it. -/
theorem Rewritten.placeAll (before after : Store) (done : Replaced) (outcomes : List Outcome)
    (h : before.Rewritten done after) (hb : ∀ o ∈ outcomes, before.Stands o.1)
    (hs : outcomes.Pairwise fun a b => b.1.2.index ≤ a.1.2.index)
    (hk : ∀ o ∈ outcomes, done.KeepsBefore o.1.2.parent o.1.2.index)
    (hp : ∀ o ∈ outcomes, o.2 ≠ some []) (ha : done.Apart) :
    ∃ done' : Replaced, before.Rewritten done' (after.placeAll outcomes) ∧
      (∀ t, done'.texts? t = (done.texts? t).or (firstParts outcomes t)) ∧ done'.Apart := by
  induction outcomes generalizing after done with
  | nil => exact ⟨done, h, fun t => Option.or_none.symm, ha⟩
  | cons o rest ih =>
    obtain ⟨hfirst, hrest⟩ := List.pairwise_cons.mp hs
    obtain ⟨next, hnext, htexts, hapart, hkeeps⟩ := Rewritten.place before after done h o
      (hb o List.mem_cons_self) (hk o List.mem_cons_self) (hp o List.mem_cons_self) ha
    have hbehind : ∀ o' ∈ rest, next.KeepsBefore o'.1.2.parent o'.1.2.index := fun o' ho' =>
      hkeeps _ _ (hk o' (List.mem_cons_of_mem _ ho')) (hfirst o' ho')
    obtain ⟨done', hdone, htexts', hapart'⟩ := ih _ next hnext
      (fun o' ho' => hb o' (List.mem_cons_of_mem _ ho')) hrest hbehind
      (fun o' ho' => hp o' (List.mem_cons_of_mem _ ho')) hapart
    refine ⟨done', hdone, ?_, hapart'⟩
    intro t
    rw [htexts' t, htexts t, firstParts_cons, Option.or_assoc]

/-- A block that comes behind outcomes of higher or equal indices is replaced exactly if it has
parts and none of these outcomes has parts for its slot. -/
theorem place?_placeAll (s : Store) (front : List Outcome) (o : Outcome)
    (hb : ∀ o' ∈ front ++ [o], s.Stands o'.1)
    (hs : (front ++ [o]).Pairwise fun a b => b.1.2.index ≤ a.1.2.index)
    (hp : ∀ o' ∈ front, o'.2 ≠ some []) :
    (s.placeAll front).place? o = if firstParts front o.1.2 = none then
      o.2.map fun parts => (s.placeAll front).spliced o.1.2 parts else none := by
  obtain ⟨hfront, -, hlast⟩ := List.pairwise_append.mp hs
  have hstands : ∀ o' ∈ front, s.Stands o'.1 := fun o' ho => hb o' (List.mem_append_left _ ho)
  obtain ⟨done, hdone, htexts, -⟩ := Rewritten.placeAll s s (fun _ => none) front s.rewritten_refl
    hstands hfront (fun _ _ _ _ => rfl) hp ⟨nofun, nofun⟩
  have hnone : ∀ t, done t = none ↔ firstParts front t = none := by
    intro t
    have ht := htexts t
    rw [Replaced.texts?, Replaced.texts?, Option.map_none, Option.none_or] at ht
    rw [← ht, Option.map_eq_none_iff]
  have hkeeps : done.KeepsBefore o.1.2.parent o.1.2.index := by
    intro i hi
    rw [hnone]
    apply firstParts_of_not_mem
    intro hmem
    obtain ⟨o', ho', he⟩ := List.mem_map.mp hmem
    have hle := hlast o' ho' o (List.mem_singleton_self o)
    rw [he] at hle
    exact Nat.not_lt.mpr hle hi
  rw [Rewritten.place? s _ done hdone o (hb o (List.mem_append_right _ (List.mem_singleton_self o)))
    hkeeps]
  simp only [hnone]

end Store

end CodeHighlight
