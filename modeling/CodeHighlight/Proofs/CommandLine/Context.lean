import CodeHighlight.CommandLine.Context

/-!
# Forests of contexts

Contexts are opened at the top or below others, so from each of its members on a lineage is that
member's own. The nearest state of a context is the one that its lineage comes to first.
-/

namespace CodeHighlight.CommandLine

namespace Contexts

/-! ## Lineages -/

/-- The contexts above a context, from the nearest to the topmost. -/
def above (c : Contexts) (id : ContextId) : List ContextId :=
  (c.contexts[id]?).elim [] Context.above

/-- Every context stands at the top, or right below another one and the contexts above that; states
that are carried or remembered have been made. -/
structure IsForest (c : Contexts) : Prop where
  parent : ∀ id, c.above id = [] ∨ ∃ p < c.contexts.length, c.above id = c.lineage p
  carried : ∀ id s, c.carried? id = some s → s < c.states.length
  remembered : ∀ s, c.remembered = some s → s < c.states.length

/-- A lineage is a context and those above it. -/
theorem lineage_eq (c : Contexts) (id : ContextId) : c.lineage id = id :: c.above id := rfl

/-- From any of its members on a lineage is the lineage of that member. -/
theorem IsForest.lineage_of_append (c : Contexts) (h : c.IsForest) (id x : ContextId)
    (front rest : List ContextId) (hid : c.lineage id = front ++ x :: rest) :
    c.lineage x = x :: rest := by
  induction front generalizing id with
  | nil =>
    rw [List.nil_append, lineage_eq, List.cons.injEq] at hid
    obtain ⟨rfl, hrest⟩ := hid
    rw [lineage_eq, hrest]
  | cons y front ih =>
    rw [List.cons_append, lineage_eq, List.cons.injEq] at hid
    rcases h.parent id with hnone | ⟨p, -, hp⟩
    · rw [hnone] at hid
      exact absurd hid.2 (by simp)
    · exact ih p (hp ▸ hid.2)

/-- A state is carried by a context of the lineage, and by none before that. -/
def CarriesNearest (c : Contexts) (id : ContextId) (s : StateId) : Prop :=
  ∃ front k rest, c.lineage id = front ++ k :: rest ∧ c.carried? k = some s ∧
    ∀ x ∈ front, c.carried? x = none

/-- The nearest state of a lineage is the one that is looked up. -/
theorem nearest?_eq_some_iff (c : Contexts) (id : ContextId) (s : StateId) :
    c.nearest? id = some s ↔ c.CarriesNearest id s :=
  List.findSome?_eq_some_iff

/-- None is looked up where no context of the lineage carries one. -/
theorem nearest?_eq_none_iff (c : Contexts) (id : ContextId) :
    c.nearest? id = none ↔ ∀ x ∈ c.lineage id, c.carried? x = none :=
  List.findSome?_eq_none_iff

/-- Below a context, without states in between, the nearest state is that of the context. -/
theorem nearest?_of_append (c : Contexts) (d id : ContextId) (front : List ContextId)
    (hd : c.lineage d = front ++ c.lineage id) (hfront : ∀ x ∈ front, c.carried? x = none) :
    c.nearest? d = c.nearest? id := by
  rw [nearest?, hd, List.findSome?_append, List.findSome?_eq_none_iff.mpr hfront, Option.none_or,
    nearest?]

/-- What is looked up depends on the contexts alone. -/
theorem nearest?_congr (c c' : Contexts) (h : c'.contexts = c.contexts) (id : ContextId) :
    c'.nearest? id = c.nearest? id := by
  unfold nearest? lineage carried?
  rw [h]

/-- So does what a context carries. -/
theorem carried?_congr (c c' : Contexts) (h : c'.contexts = c.contexts) (id : ContextId) :
    c'.carried? id = c.carried? id := by
  rw [carried?, carried?, h]

/-- What stands above a context does as well. -/
theorem above_congr (c c' : Contexts) (h : c'.contexts = c.contexts) (id : ContextId) :
    c'.above id = c.above id := by
  rw [above, above, h]

/-! ## Attaching states -/

/-- Attaching a state changes what its context carries, and nothing else about the contexts. -/
theorem getElem?_attach (c : Contexts) (id : ContextId) (s : StateId) (x : ContextId) :
    (c.attach id s).contexts[x]? =
      if x = id then (c.contexts[x]?).map fun context => { context with attachment := .state s }
      else c.contexts[x]? := by
  rw [attach, List.getElem?_modify]
  by_cases hx : x = id
  · subst x
    simp
  · rw [if_neg hx]
    simp [Ne.symm hx]

/-- Contexts stay where they are. -/
theorem above_attach (c : Contexts) (id : ContextId) (s : StateId) (x : ContextId) :
    (c.attach id s).above x = c.above x := by
  rw [above, getElem?_attach]
  split
  · rw [above]
    cases c.contexts[x]? <;> rfl
  · rw [above]

/-- Lineages stay as well. -/
theorem lineage_attach (c : Contexts) (id : ContextId) (s : StateId) (x : ContextId) :
    (c.attach id s).lineage x = c.lineage x := by
  rw [lineage_eq, lineage_eq, above_attach]

/-- The context carries the state that is attached, and the others carry what they did. -/
theorem carried?_attach (c : Contexts) (id : ContextId) (s : StateId)
    (hid : id < c.contexts.length) (x : ContextId) :
    (c.attach id s).carried? x = if x = id then some s else c.carried? x := by
  rw [carried?, getElem?_attach]
  by_cases hx : x = id
  · subst x
    rw [if_pos rfl, if_pos rfl, List.getElem?_eq_getElem hid]
    rfl
  · rw [if_neg hx, if_neg hx, carried?]

/-- A state attached where none was near does not come before the nearest state of any context: that
state would have been near. -/
theorem IsForest.nearest?_attach (c : Contexts) (h : c.IsForest) (id : ContextId) (s : StateId)
    (hid : id < c.contexts.length) (hnone : c.nearest? id = none) (x : ContextId) (t : StateId)
    (hx : c.nearest? x = some t) : (c.attach id s).nearest? x = some t := by
  have hbare := (c.nearest?_eq_none_iff id).mp hnone
  obtain ⟨front, k, rest, hlineage, hk, hfront⟩ := (c.nearest?_eq_some_iff x t).mp hx
  have hcarrier : k ≠ id := by
    rintro rfl
    have hself := hbare k (by rw [lineage_eq]; exact List.mem_cons_self)
    rw [hself] at hk
    cases hk
  refine ((c.attach id s).nearest?_eq_some_iff x t).mpr ⟨front, k, rest, ?_, ?_, ?_⟩
  · rw [lineage_attach, hlineage]
  · rw [carried?_attach c id s hid, if_neg hcarrier, hk]
  · intro y hy
    rw [carried?_attach c id s hid, if_neg, hfront y hy]
    rintro rfl
    -- The carrier would stand in the lineage of the context, which carries no state.
    obtain ⟨before, behind, rfl⟩ := List.append_of_mem hy
    rw [List.append_assoc, List.cons_append] at hlineage
    have hmem : k ∈ c.lineage y := by
      rw [h.lineage_of_append c x y before _ hlineage]
      exact List.mem_cons_of_mem _ (List.mem_append_right _ List.mem_cons_self)
    rw [hbare k hmem] at hk
    cases hk

/-! ## Opening contexts -/

/-- No contexts are a forest. -/
theorem isForest_empty : IsForest {} where
  parent _ := .inl rfl
  carried _ _ hs := by cases hs
  remembered _ hs := by cases hs

private theorem getElem?_add (c : Contexts) (parent : Option ContextId) (attachment : Attachment)
    (id : ContextId) : (c.add parent attachment).1.contexts[id]? =
      if id = c.contexts.length then some ⟨parent.elim [] c.lineage, attachment⟩
      else c.contexts[id]? := by
  rw [add]
  rcases Nat.lt_trichotomy id c.contexts.length with hlt | rfl | hgt
  · rw [List.getElem?_append_left hlt, if_neg (Nat.ne_of_lt hlt)]
  · rw [List.getElem?_concat_length, if_pos rfl]
  · have hout : (c.contexts ++ [Context.mk (parent.elim [] c.lineage) attachment]).length ≤ id := by
      rwa [List.length_append]
    rw [if_neg (Nat.ne_of_gt hgt), List.getElem?_eq_none (Nat.le_of_lt hgt),
      List.getElem?_eq_none hout]

/-- A new context has the given one and those above it above itself. -/
theorem above_add (c : Contexts) (parent : Option ContextId) (attachment : Attachment)
    (id : ContextId) : (c.add parent attachment).1.above id =
      if id = c.contexts.length then parent.elim [] c.lineage else c.above id := by
  rw [above, getElem?_add]
  split <;> rfl

/-- Opening a context below another one, or at the top, keeps a forest. -/
theorem IsForest.add (c : Contexts) (h : c.IsForest) (parent : Option ContextId)
    (attachment : Attachment) (hparent : ∀ p, parent = some p → p < c.contexts.length)
    (hstate : ∀ s, attachment = .state s → s < c.states.length) :
    (c.add parent attachment).1.IsForest where
  parent id := by
    have hold : ∀ p < c.contexts.length, (c.add parent attachment).1.lineage p = c.lineage p := by
      intro p hp
      rw [lineage_eq, above_add, if_neg (Nat.ne_of_lt hp), lineage_eq]
    have hlength : c.contexts.length < (c.add parent attachment).1.contexts.length := by
      rw [Contexts.add, List.length_append, List.length_singleton]
      exact Nat.lt_succ_self _
    rw [above_add]
    split
    · cases parent with
      | none => exact .inl rfl
      | some p =>
        have hlt := hparent p rfl
        exact .inr ⟨p, Nat.lt_trans hlt hlength, (hold p hlt).symm⟩
    · refine (h.parent id).imp_right ?_
      rintro ⟨p, hlt, hp⟩
      exact ⟨p, Nat.lt_trans hlt hlength, hp.trans (hold p hlt).symm⟩
  carried id s hs := by
    rw [carried?, getElem?_add] at hs
    by_cases hid : id = c.contexts.length
    · rw [if_pos hid] at hs
      cases attachment with
      | nothing => cases hs
      | foreign => cases hs
      | state t => exact hstate s (congrArg Attachment.state (Option.some.inj hs))
    · rw [if_neg hid] at hs
      exact h.carried id s hs
  remembered := h.remembered

end Contexts

end CodeHighlight.CommandLine
