import CodeHighlight.Proofs.Document.Graph
import CodeHighlight.Proofs.Highlighter.Course

/-!
# Blocks that stand in several places

Where objects are shared, the walk visits a slot once for each way that leads down to it, and the
block there has as many turns. The first of them replaces the block, because whatever was replaced
before lies behind it or elsewhere; every further one finds a bundle in the slot and is reported.
-/

namespace CodeHighlight

/-- A code object stands in the slot, and the slot belongs to an object below `root`. -/
def Store.HoldsBlock (s : Store) (root : NodeId) (slot : Slot) : Prop :=
  s.Below root slot.parent ∧
    ∃ n, (s.childIds slot.parent)[slot.index]? = some n ∧ (s.get n).kind = Node.codeKind

/-- The failure that a step reports as an error. -/
def Step.error? : Step → Option Failure
  | .report (.error _ failure) => failure
  | _ => none

namespace Highlighter

variable {ω γ : Type}

/-- The blocks of a document without cycles are found in all slots that hold one. -/
theorem mem_slots_discover (s : Store) (root : NodeId) (acyclic : s.IsAcyclic root) (slot : Slot) :
    slot ∈ (discover s root).map Prod.snd ↔ s.HoldsBlock root slot := by
  rw [List.mem_map]
  constructor
  · rintro ⟨⟨n, slot⟩, hb, rfl⟩
    obtain ⟨hv, hkind⟩ := (mem_discover s root (n, slot)).mp hb
    obtain ⟨hbelow, hc⟩ := (Store.IsAcyclic.mem_visits_iff s root acyclic n slot).mp hv
    exact ⟨hbelow, n, hc, hkind⟩
  · rintro ⟨hbelow, n, hc, hkind⟩
    refine ⟨(n, slot), (mem_discover s root (n, slot)).mpr ⟨?_, hkind⟩, rfl⟩
    exact (Store.IsAcyclic.mem_visits_iff s root acyclic n slot).mpr ⟨hbelow, hc⟩

/-- The renderer gives a whole bundle for every request. -/
def AlwaysRenders (h : Highlighter ω γ) : Prop :=
  ∀ request w, ∃ markup style script,
    (h.renderer request w).1 = .ok ⟨some markup, some style, some script⟩

/-- What the renderer gives in a turn. -/
theorem AlwaysRenders.outcome (h : Highlighter ω γ) (renders : h.AlwaysRenders) (turn : Turn ω) :
    ∃ markup style script,
      (h.renderer (turn.request h) turn.state.world).1 =
        .ok ⟨some markup, some style, some script⟩ ∧
      (turn.outcome h).2 = some [markup, style, script] := by
  obtain ⟨markup, style, script, hr⟩ := renders (turn.request h) turn.state.world
  refine ⟨markup, style, script, hr, ?_⟩
  have houtcome : (turn.outcome h).2 =
      answerParts? (h.renderer (turn.request h) turn.state.world).1 := rfl
  rw [houtcome, hr, answerParts?]

/-- If the renderer gives all parts, there are none for a slot only if it has no turn. -/
theorem firstParts_eq_none_iff (h : Highlighter ω γ) (renders : h.AlwaysRenders)
    (turns : List (Turn ω)) (slot : Slot) :
    Store.firstParts (turns.map (·.outcome h)) slot = none ↔ slot ∉ turns.map (·.block.2) := by
  rw [Store.firstParts_eq_none_iff, map_slot_outcome]
  intro o ho
  obtain ⟨turn, -, rfl⟩ := List.mem_map.mp ho
  obtain ⟨markup, style, script, -, hparts⟩ := renders.outcome h turn
  rw [hparts]
  exact Option.some_ne_none _

/-- A turn replaces its block exactly if no turn before it had the same slot. -/
theorem replaced_iff_first (h : Highlighter ω γ) (root : NodeId) (s : RunState ω)
    (hook : (h.runHook s).1 = .ok ()) (renders : h.AlwaysRenders) (front : List (Turn ω))
    (turn : Turn ω) (back : List (Turn ω)) (hs : h.turnsOf root s = front ++ turn :: back) :
    turn.replaced h = true ↔ turn.block.2 ∉ front.map (·.block.2) := by
  have order := order_inOrder (discover s.store root)
  have hblocks := h.map_block_turnsOf root s hook
  have hprefix : (front ++ [turn]).Sublist (h.turnsOf root s) := by
    rw [hs]
    exact List.Sublist.append_left (List.cons_sublist_cons.mpr (List.nil_sublist _)) front
  have hpart : ((front ++ [turn]).map Turn.block).Sublist (inOrder (discover s.store root)) :=
    hblocks ▸ hprefix.map Turn.block
  have hmap : (front ++ [turn]).map (·.outcome h) =
      front.map (·.outcome h) ++ [turn.outcome h] := List.map_append
  have hparts : ∀ turn : Turn ω, ∃ parts, (turn.outcome h).2 = some parts ∧ parts ≠ [] := by
    intro turn
    obtain ⟨markup, style, script, -, ho⟩ := renders.outcome h turn
    exact ⟨_, ho, List.cons_ne_nil _ _⟩
  -- The turns so far are those of blocks found, in descending order, as placing them needs it.
  have hplace := s.store.place?_placeAll (front.map (·.outcome h)) (turn.outcome h) (by
      rw [← hmap]
      intro o ho
      obtain ⟨t, ht, rfl⟩ := List.mem_map.mp ho
      apply stands_of_mem_discover s.store root
      exact order.perm.mem_iff.mp (hpart.subset (List.mem_map_of_mem ht))) (by
      rw [← hmap, List.pairwise_map]
      exact List.pairwise_map.mp (order.descending.sublist hpart)) (by
      intro o ho
      obtain ⟨t, -, rfl⟩ := List.mem_map.mp ho
      obtain ⟨parts, hp, hne⟩ := hparts t
      rw [hp]
      exact fun e => hne (Option.some.inj e))
  have hfirst := firstParts_eq_none_iff h renders front turn.block.2
  obtain ⟨parts, hp, -⟩ := hparts turn
  have hslot : (turn.outcome h).1.2 = turn.block.2 := rfl
  rw [turn.replaced_eq, h.store_of_turnsOf root s front turn back hs, hplace, ← hfirst, hslot, hp]
  split
  · rename_i hnone
    simp [hnone]
  · rename_i hsome
    simp [hsome]

/-- Turns that replace their blocks have different slots. -/
theorem nodup_replaced (h : Highlighter ω γ) (turns : List (Turn ω))
    (first : ∀ front turn back, turns = front ++ turn :: back →
      (turn.replaced h = true ↔ turn.block.2 ∉ front.map (·.block.2))) :
    ((turns.filter (·.replaced h)).map (·.block.2)).Nodup := by
  have hpair : turns.Pairwise fun a b => b.replaced h = true → a.block.2 ≠ b.block.2 := by
    rw [List.pairwise_iff_getElem]
    intro i j hi hj hij hb he
    have hsplit : turns = turns.take j ++ turns[j] :: turns.drop (j + 1) := by
      rw [← List.drop_eq_getElem_cons hj, List.take_append_drop]
    apply (first _ _ _ hsplit).mp hb
    rw [← he]
    apply List.mem_map_of_mem
    rw [List.mem_take_iff_getElem]
    exact ⟨i, by omega, rfl⟩
  rw [List.Nodup, List.pairwise_map]
  apply List.Pairwise.imp_of_mem _ (hpair.filter _)
  intro a b _ hb hab
  exact hab (List.mem_filter.mp hb).2

/-- Among the turns of a slot one is the first. -/
theorem exists_first (turns : List (Turn ω)) (slot : Slot) (hm : slot ∈ turns.map (·.block.2)) :
    ∃ front turn back, turns = front ++ turn :: back ∧ turn.block.2 = slot ∧
      slot ∉ front.map (·.block.2) := by
  obtain ⟨t, ht, he⟩ := List.mem_map.mp hm
  cases hf : turns.find? fun t => t.block.2 = slot with
  | none =>
    have hnone := List.find?_eq_none.mp hf t ht
    exact (hnone (decide_eq_true he)).elim
  | some turn =>
    obtain ⟨hslot, front, back, hs, hfront⟩ := List.find?_eq_some_iff_append.mp hf
    refine ⟨front, turn, back, hs, of_decide_eq_true hslot, ?_⟩
    intro hmem
    obtain ⟨t', ht', he'⟩ := List.mem_map.mp hmem
    have hno := hfront t' ht'
    simp [he'] at hno

/-- A slot that has a turn has one that replaces its block. -/
theorem mem_replaced_iff (h : Highlighter ω γ) (turns : List (Turn ω))
    (first : ∀ front turn back, turns = front ++ turn :: back →
      (turn.replaced h = true ↔ turn.block.2 ∉ front.map (·.block.2))) (slot : Slot) :
    slot ∈ (turns.filter (·.replaced h)).map (·.block.2) ↔ slot ∈ turns.map (·.block.2) := by
  constructor
  · intro hm
    exact (List.filter_sublist.map _).subset hm
  · intro hm
    obtain ⟨front, turn, back, hs, rfl, hfront⟩ := exists_first turns slot hm
    have hr := (first front turn back hs).mpr hfront
    have hmem : turn ∈ turns := hs ▸ List.mem_append_right front List.mem_cons_self
    exact List.mem_map.mpr ⟨turn, List.mem_filter.mpr ⟨hmem, hr⟩, rfl⟩

private theorem firstParts_of_first (h : Highlighter ω γ) (renders : h.AlwaysRenders)
    (front : List (Turn ω)) (turn : Turn ω) (back : List (Turn ω))
    (hfront : turn.block.2 ∉ front.map (·.block.2)) :
    Store.firstParts ((front ++ turn :: back).map (·.outcome h)) turn.block.2 =
      (turn.outcome h).2 := by
  obtain ⟨markup, style, script, -, ho⟩ := renders.outcome h turn
  have hslot : (turn.outcome h).1.2 = turn.block.2 := rfl
  have hnone := (firstParts_eq_none_iff h renders front turn.block.2).mpr hfront
  rw [Store.firstParts] at hnone
  rw [Store.firstParts, List.map_append, List.findSome?_append, hnone, Option.none_or,
    List.map_cons, List.findSome?_cons, if_pos hslot, ho]

/-- What took the place of slots, told by the first parts for each: the slots are those with a turn.
-/
theorem isSome_done_iff (h : Highlighter ω γ) (renders : h.AlwaysRenders) (turns : List (Turn ω))
    (done : Replaced)
    (htexts : ∀ slot, done.texts? slot = Store.firstParts (turns.map (·.outcome h)) slot)
    (slot : Slot) : (done slot).isSome ↔ slot ∈ turns.map (·.block.2) := by
  have hnone : done slot = none ↔ slot ∉ turns.map (·.block.2) := by
    rw [← firstParts_eq_none_iff h renders, ← htexts, Replaced.texts?, Option.map_eq_none_iff]
  rw [Option.isSome_iff_ne_none, Ne, hnone, Classical.not_not]

/-- In the place of a slot stand the parts that the renderer gave in its first turn. -/
theorem bundle_of_done (h : Highlighter ω γ) (renders : h.AlwaysRenders) (turns : List (Turn ω))
    (done : Replaced)
    (htexts : ∀ slot, done.texts? slot = Store.firstParts (turns.map (·.outcome h)) slot)
    (slot : Slot) (ids : List (NodeId × String)) (hids : done slot = some ids) :
    ∃ front turn back markup style script, turns = front ++ turn :: back ∧ turn.block.2 = slot ∧
      slot ∉ front.map (·.block.2) ∧
      (h.renderer (turn.request h) turn.state.world).1 =
        .ok ⟨some markup, some style, some script⟩ ∧
      ids.map Prod.snd = [markup, style, script] := by
  have hturn := (isSome_done_iff h renders turns done htexts slot).mp (by rw [hids]; rfl)
  obtain ⟨front, turn, back, rfl, rfl, hfront⟩ := exists_first turns slot hturn
  obtain ⟨markup, style, script, hr, ho⟩ := renders.outcome h turn
  refine ⟨front, turn, back, markup, style, script, rfl, rfl, hfront, hr, ?_⟩
  have ht := htexts turn.block.2
  rw [firstParts_of_first h renders front turn back hfront, ho, Replaced.texts?, hids] at ht
  exact Option.some.inj ht

/-- Turns report as moved every block that they do not replace, if the renderer gives all parts. -/
theorem errors_turns (h : Highlighter ω γ) (renders : h.AlwaysRenders) (turns : List (Turn ω)) :
    (turns.flatMap (·.steps h)).filterMap Step.error? =
      List.replicate (turns.countP (!·.replaced h)) SpliceFault.moved.failure := by
  induction turns with
  | nil => rfl
  | cons turn rest ih =>
    rw [List.flatMap_cons, List.filterMap_append, ih, List.countP_cons]
    cases hr : turn.replaced h with
    | true =>
      rw [turn.steps_of_replaced h hr]
      rfl
    | false =>
      obtain ⟨markup, style, script, -, ho⟩ := renders.outcome h turn
      obtain ⟨failure, hsteps, hmoved⟩ := turn.steps_of_stays h hr
      rw [hsteps, hmoved (by rw [ho, Option.isSome_some]),
        List.filterMap_cons_none (by rfl), List.filterMap_cons_some (by rfl), List.filterMap_nil]
      simp [List.replicate_succ]

/-- What a run makes of a document in which objects are shared. `slots` are the slots that held a
block, `done` tells what took the places, and `repeated` counts the further visits of slots. -/
structure Exchanges (h : Highlighter ω γ) (root : NodeId) (s t : RunState ω) (slots : List Slot)
    (done : Replaced) (repeated : Nat) : Prop where
  /-- No slot is listed twice. -/
  slots_nodup : slots.Nodup
  /-- The slots are those that hold a block below the topmost object. -/
  mem_slots_iff : ∀ slot, slot ∈ slots ↔ s.store.HoldsBlock root slot
  /-- The block of each of these slots gave way, and nothing else did. -/
  replaced_iff : ∀ slot, (done slot).isSome ↔ slot ∈ slots
  /-- In the place of a block stand three objects with the markup, the style and the script that the
  renderer gave in the first turn of the slot. -/
  bundle : ∀ slot ids, done slot = some ids → ∃ front turn back markup style script,
    h.turnsOf root s = front ++ turn :: back ∧ turn.block.2 = slot ∧
    slot ∉ front.map (·.block.2) ∧
    (h.renderer (turn.request h) turn.state.world).1 =
      .ok ⟨some markup, some style, some script⟩ ∧
    ids.map Prod.snd = [markup, style, script]
  /-- These objects are new and stand nowhere else. -/
  apart : done.Apart
  /-- Every object keeps its fields, and its list of children is the old one with the slots
  exchanged; the new objects hold their markup. -/
  objects : s.store.Rewritten done t.store
  /-- Every visit of a slot has its turn, in the order of processing. -/
  turns : (h.turnsOf root s).map Turn.block = inOrder (discover s.store root)
  /-- The visits are one for each slot and the repeated ones. -/
  visits : (discover s.store root).length = slots.length + repeated
  /-- The first turn of a slot replaces the block, and a repeated one does not. -/
  first : ∀ front turn back, h.turnsOf root s = front ++ turn :: back →
    (turn.replaced h = true ↔ turn.block.2 ∉ front.map (·.block.2))
  /-- Each repeated visit, and nothing else, is reported as an error: the block has moved. -/
  errors : t.trace.filterMap Step.error? =
    s.trace.filterMap Step.error? ++ List.replicate repeated SpliceFault.moved.failure
  /-- The summary counts the slots and the repeated visits. -/
  summary : slots ≠ [] →
    t.trace.getLast? = some (.report (.blocksHighlighted slots.length repeated))

/-- What a run adds to the errors of the trace, if the renderer gives all parts. -/
theorem errors_transform (h : Highlighter ω γ) (root : NodeId) (s : RunState ω)
    (hook : (h.runHook s).1 = .ok ()) (renders : h.AlwaysRenders) :
    (h.transform root s).2.trace.filterMap Step.error? = s.trace.filterMap Step.error? ++
      List.replicate ((h.turnsOf root s).countP (!·.replaced h)) SpliceFault.moved.failure := by
  have hnone : ∀ step : Step, step.isError = false → step.error? = none := by
    intro step hs
    cases step with
    | report diagnostic =>
      cases diagnostic with
      | error message failure => cases hs
      | warning message failure => rfl
      | event name payload => rfl
    | _ => rfl
  have hhook : h.hookSteps.filterMap Step.error? = [] :=
    List.filterMap_eq_nil_iff.mpr fun step hs => hnone step (h.quiet_hookSteps step hs).2.1
  by_cases hd : discover s.store root = []
  · rw [transform_of_no_blocks h root s hook hd, h.turnsOf_of_no_blocks root s hd, trace_runHook,
      List.filterMap_append, hhook]
    rfl
  · obtain ⟨loads, -, hloads, hloaded⟩ := h.exists_trace_loadLanguages root (h.runHook s).2
    have hload : (loads.flatMap Prod.snd).filterMap Step.error? = [] :=
      List.filterMap_eq_nil_iff.mpr fun step hs =>
        hnone step (quiet_loads loads hloads step hs).2.1
    rw [h.trace_transform root s hook hd, hloaded, trace_runHook]
    simp only [List.filterMap_append]
    rw [hhook, hload, errors_turns h renders, List.append_nil, List.append_nil]
    exact List.append_nil _

/-- A run over a document without cycles, with a renderer that never fails, replaces the block in
every slot once and reports every further visit of a slot. -/
theorem transform_exchanges (h : Highlighter ω γ) (root : NodeId) (s : RunState ω)
    (acyclic : s.store.IsAcyclic root) (hook : (h.runHook s).1 = .ok ())
    (renders : h.AlwaysRenders) :
    (h.transform root s).1 = .ok () ∧ ∃ slots done repeated,
      h.Exchanges root s (h.transform root s).2 slots done repeated := by
  have hblocks := h.map_block_turnsOf root s hook
  have hfirst := h.replaced_iff_first root s hook renders
  have hslots : (h.turnsOf root s).map (·.block.2) =
      (inOrder (discover s.store root)).map Prod.snd := by
    rw [← hblocks, List.map_map]
    rfl
  have hmem (slot : Slot) : slot ∈ (h.turnsOf root s).map (·.block.2) ↔
      s.store.HoldsBlock root slot := by
    rw [hslots, ((order_inOrder _).perm.map Prod.snd).mem_iff, mem_slots_discover _ _ acyclic]
  obtain ⟨done, hdone, htexts, hapart⟩ := h.rewritten_transform root s
  have hparts := isSome_done_iff h renders (h.turnsOf root s) done htexts
  refine ⟨h.transform_ok root s hook, ((h.turnsOf root s).filter (·.replaced h)).map (·.block.2),
    done, (h.turnsOf root s).countP (!·.replaced h), ?_⟩
  constructor
  case slots_nodup => exact nodup_replaced h _ hfirst
  case mem_slots_iff =>
    intro slot
    rw [mem_replaced_iff h _ hfirst, hmem]
  case replaced_iff =>
    intro slot
    rw [mem_replaced_iff h _ hfirst, hparts]
  case bundle => exact bundle_of_done h renders (h.turnsOf root s) done htexts
  case apart => exact hapart
  case objects => exact hdone
  case turns => exact hblocks
  case visits =>
    have hlength := congrArg List.length hblocks
    rw [List.length_map, (order_inOrder _).perm.length_eq,
      List.length_eq_countP_add_countP (·.replaced h), List.countP_eq_length_filter] at hlength
    rw [List.length_map, ← hlength]
    simp
  case first => exact hfirst
  case errors => exact h.errors_transform root s hook renders
  case summary =>
    intro hne
    have hd : discover s.store root ≠ [] := by
      intro hd
      rw [h.turnsOf_of_no_blocks root s hd] at hne
      exact hne rfl
    rw [h.trace_transform root s hook hd, List.getLast?_concat, List.length_map,
      ← List.countP_eq_length_filter]

/-- A document in which a quotation stands twice and its block a third time outside. -/
def quotedStore : Store where
  records := #[
    { kind := Node.rootKind, children := some [1, 1, 2] },
    { kind := "blockquote", children := some [2] },
    { kind := Node.codeKind, value := some "x" }]

/-- A highlighter whose bundles are the code and the label. -/
def labelHighlighter : Highlighter Unit Unit :=
  { pickyHighlighter with
    renderer := fun request w => (.ok ⟨some request.code, some "", some request.label⟩, w) }

/-- In the quoted document children have higher numbers. -/
theorem isAcyclic_quotedStore : quotedStore.IsAcyclic 0 :=
  quotedStore.isAcyclic_of_ascending 0 (by decide) (by decide)

/-- A run over the quoted document replaces the block in both slots that it stands in. -/
theorem transform_quoted_exchanges :
    let s : RunState Unit := { world := (), context := {}, store := quotedStore }
    (labelHighlighter.transform 0 s).1 = .ok () ∧ ∃ slots done repeated,
      labelHighlighter.Exchanges 0 s (labelHighlighter.transform 0 s).2 slots done repeated :=
  transform_exchanges labelHighlighter 0 _ isAcyclic_quotedStore rfl
    fun request _ => ⟨request.code, "", request.label, rfl⟩

end Highlighter

end CodeHighlight
