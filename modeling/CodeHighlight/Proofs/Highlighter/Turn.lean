import CodeHighlight.Proofs.Highlighter.Transform

/-!
# Turns

Every block has one turn, in the state that the turns before it left. The renderer may act on its
world as it likes. What a run leaves of the store, the counter and the trace, and the two counts
that it returns, are told by its turns alone.
-/

namespace CodeHighlight

namespace Store

/-- Placing outcomes keeps all fields of an object apart from its children. -/
theorem bare_get_placeAll (s : Store) (outcomes : List Outcome) (n : NodeId)
    (hn : n < s.records.size) : ((s.placeAll outcomes).get n).bare = (s.get n).bare := by
  induction outcomes generalizing s with
  | nil => rfl
  | cons o rest ih =>
    rw [placeAll, ih _ (Nat.lt_of_lt_of_le hn (s.size_le_place o)), s.bare_get_place o n hn]

end Store

/-- The turn of a block: the block and the state in which it is processed. -/
structure Turn (ω : Type) where
  block : NodeId × Slot
  state : RunState ω

namespace Turn

variable {ω γ : Type}

/-- What the renderer is asked for in a turn. -/
def request (h : Highlighter ω γ) (t : Turn ω) : RenderRequest := h.nextRequest t.block t.state

/-- The block of a turn with the parts that the renderer gives for it. -/
def outcome (h : Highlighter ω γ) (t : Turn ω) : Outcome := h.nextOutcome t.block t.state

/-- The state that a turn leaves. -/
def next (h : Highlighter ω γ) (t : Turn ω) : RunState ω := (h.process t.block t.state).2

/-- The block gave way to its bundle. -/
def replaced (h : Highlighter ω γ) (t : Turn ω) : Bool := (h.process t.block t.state).1

/-- What a turn adds to the trace. -/
def steps (h : Highlighter ω γ) (t : Turn ω) : List Step :=
  (t.next h).trace.drop t.state.trace.length

private theorem language_request (h : Highlighter ω γ) (t : Turn ω) :
    (t.request h).language = Language.normalize (t.state.store.get t.block.1).language :=
  h.language_nextRequest t.block t.state

/-- A turn replaces its block exactly if the parts can be placed. -/
theorem replaced_eq (h : Highlighter ω γ) (t : Turn ω) :
    t.replaced h = (t.state.store.place? (t.outcome h)).isSome :=
  (h.processed_process t.block t.state).done

/-- A turn leaves the store with the parts placed, or as it was. -/
theorem store_next (h : Highlighter ω γ) (t : Turn ω) :
    (t.next h).store = (t.state.store.place? (t.outcome h)).getD t.state.store :=
  (h.processed_process t.block t.state).store

/-- What a turn adds comes behind what was there. -/
theorem trace_next (h : Highlighter ω γ) (t : Turn ω) :
    (t.next h).trace = t.state.trace ++ t.steps h := by
  obtain ⟨step, -, htrace⟩ := (h.processed_process t.block t.state).trace
  rw [steps, next, htrace, List.drop_left]

/-- A block that gives way is rendered and noted as replaced. -/
theorem steps_of_replaced (h : Highlighter ω γ) (t : Turn ω) (hr : t.replaced h = true) :
    t.steps h = [.render (t.request h),
      .replaced (t.request h).language t.block.2.index (t.request h).label] := by
  rw [replaced_eq, Option.isSome_iff_exists] at hr
  obtain ⟨store, hp⟩ := hr
  rw [steps, next, Highlighter.process_of_placed h t.block t.state store hp]
  simp only [RunState.note, Highlighter.called, List.append_assoc, List.drop_left]
  rfl

/-- A block that stays is rendered and reported; where the renderer gave all parts, it is reported
as moved. -/
theorem steps_of_stays (h : Highlighter ω γ) (t : Turn ω) (hr : t.replaced h = false) :
    ∃ failure, t.steps h = [.render (t.request h), .report (.error
        ("Failed to process code block (lang: " ++ (t.request h).language ++ ")")
        (some failure))] ∧
      ((t.outcome h).2.isSome → failure = SpliceFault.moved.failure) := by
  rw [replaced_eq, Option.isSome_eq_false_iff, Option.isNone_iff_eq_none] at hr
  obtain ⟨failure, hprocess, hmoved⟩ := Highlighter.process_of_not_placed h t.block t.state hr
  refine ⟨failure, ?_, hmoved⟩
  rw [steps, next, hprocess, language_request, ← Highlighter.stays, RunState.note,
    Highlighter.called]
  simp only [List.append_assoc, List.drop_left]
  rfl

/-- A turn that replaces its block leaves a splice of the store, any other the store as it was. -/
theorem store_cases (h : Highlighter ω γ) (t : Turn ω) :
    if t.replaced h then
      ∃ parts, (t.outcome h).2 = some parts ∧
        (t.next h).store = t.state.store.spliced t.block.2 parts
    else (t.next h).store = t.state.store := by
  rw [replaced_eq, store_next]
  cases hp : t.state.store.place? (t.outcome h) with
  | none => exact if_neg Bool.false_ne_true ▸ rfl
  | some store => exact if_pos rfl ▸ Store.eq_spliced_of_place? _ _ _ hp

end Turn

namespace Highlighter

variable {ω γ : Type}

/-- The turns of blocks that are processed one after the other. -/
def turns (h : Highlighter ω γ) : List (NodeId × Slot) → RunState ω → List (Turn ω)
  | [], _ => []
  | block :: rest, s => ⟨block, s⟩ :: h.turns rest (h.process block s).2

/-- Each block has its turn. -/
theorem map_block_turns (h : Highlighter ω γ) (blocks : List (NodeId × Slot)) (s : RunState ω) :
    (h.turns blocks s).map Turn.block = blocks := by
  induction blocks generalizing s with
  | nil => rfl
  | cons block rest ih => rw [turns, List.map_cons, ih]

/-- Before a turn stands the state that the turns before it left. -/
theorem turns_eq_append (h : Highlighter ω γ) (blocks : List (NodeId × Slot)) (s : RunState ω)
    (front : List (Turn ω)) (turn : Turn ω) (back : List (Turn ω))
    (hs : h.turns blocks s = front ++ turn :: back) :
    front = h.turns (front.map Turn.block) s ∧
      turn.state = (h.processAll (front.map Turn.block) s).2 := by
  induction front generalizing blocks s with
  | nil =>
    cases blocks with
    | nil => cases hs
    | cons block rest =>
      rw [turns, List.nil_append, List.cons.injEq] at hs
      rw [← hs.1]
      exact ⟨rfl, rfl⟩
  | cons first front ih =>
    cases blocks with
    | nil => cases hs
    | cons block rest =>
      rw [turns, List.cons_append, List.cons.injEq] at hs
      obtain ⟨rfl, hrest⟩ := hs
      obtain ⟨hfront, hturn⟩ := ih rest _ hrest
      refine ⟨?_, hturn⟩
      rw [List.map_cons, turns, ← hfront]

/-- What turns do to the state of a run, and what they count. -/
structure Took (h : Highlighter ω γ) (turns : List (Turn ω)) (s : RunState ω)
    (result : (Nat × Nat) × RunState ω) : Prop where
  counts : result.1 = (turns.countP (·.replaced h), turns.countP (!·.replaced h))
  store : result.2.store = s.store.placeAll (turns.map (·.outcome h))
  counter : result.2.context.counter = s.context.counter.after turns.length
  languages : result.2.context.languages = s.context.languages
  trace : result.2.trace = s.trace ++ turns.flatMap (·.steps h)

/-- A run over blocks is its turns. -/
theorem took_processAll (h : Highlighter ω γ) (blocks : List (NodeId × Slot)) (s : RunState ω) :
    h.Took (h.turns blocks s) s (h.processAll blocks s) := by
  induction blocks generalizing s with
  | nil => exact ⟨rfl, rfl, rfl, rfl, (List.append_nil _).symm⟩
  | cons block rest ih =>
    have hp := h.processed_process block s
    have hrest := ih (h.process block s).2
    rw [processAll_cons, turns]
    constructor
    · have hflag : Turn.replaced h ⟨block, s⟩ = (h.process block s).1 := rfl
      rw [hrest.counts, List.countP_cons, List.countP_cons, hflag]
      cases (h.process block s).1 <;> rfl
    · rw [hrest.store, hp.store]
      rfl
    · rw [hrest.counter, hp.counter, List.length_cons, LabelCounter.after_succ]
    · rw [hrest.languages, hp.languages]
    · have htrace : (h.process block s).2.trace = s.trace ++ Turn.steps h ⟨block, s⟩ :=
        Turn.trace_next h ⟨block, s⟩
      rw [hrest.trace, htrace, List.flatMap_cons, List.append_assoc]

/-- The turns of a run over a document; there are none where the hook fails. -/
def turnsOf (h : Highlighter ω γ) (root : NodeId) (s : RunState ω) : List (Turn ω) :=
  match (h.runHook s).1 with
  | .error _ => []
  | .ok () => h.turns (inOrder (discover s.store root)) (h.loadLanguages root (h.runHook s).2)

/-- Where the hook passes, the blocks have their turns behind the loading of the languages. -/
theorem turnsOf_of_hook (h : Highlighter ω γ) (root : NodeId) (s : RunState ω)
    (hook : (h.runHook s).1 = .ok ()) :
    h.turnsOf root s =
      h.turns (inOrder (discover s.store root)) (h.loadLanguages root (h.runHook s).2) := by
  rw [turnsOf, hook]

/-- Where the hook passes, the blocks found have their turns in order. -/
theorem map_block_turnsOf (h : Highlighter ω γ) (root : NodeId) (s : RunState ω)
    (hook : (h.runHook s).1 = .ok ()) :
    (h.turnsOf root s).map Turn.block = inOrder (discover s.store root) := by
  rw [turnsOf_of_hook h root s hook, map_block_turns]

/-- Only blocks that were found have turns, and these are in order. -/
theorem sublist_turnsOf (h : Highlighter ω γ) (root : NodeId) (s : RunState ω) :
    ((h.turnsOf root s).map Turn.block).Sublist (inOrder (discover s.store root)) := by
  cases hook : (h.runHook s).1 with
  | error failure =>
    rw [turnsOf, hook]
    exact List.nil_sublist _
  | ok done =>
    have hblocks := h.map_block_turnsOf root s hook
    exact hblocks ▸ List.Sublist.refl _

/-- A block that has a turn was found. -/
theorem mem_discover_of_turn (h : Highlighter ω γ) (root : NodeId) (s : RunState ω)
    (turn : Turn ω) (ht : turn ∈ h.turnsOf root s) : turn.block ∈ discover s.store root :=
  (order_inOrder _).perm.mem_iff.mp
    ((h.sublist_turnsOf root s).subset (List.mem_map_of_mem ht))

/-- Without blocks there are no turns. -/
theorem turnsOf_of_no_blocks (h : Highlighter ω γ) (root : NodeId) (s : RunState ω)
    (hd : discover s.store root = []) : h.turnsOf root s = [] := by
  rw [turnsOf, hd, inOrder, List.mergeSort_nil]
  split <;> rfl

/-- Before a turn stands the store in which the outcomes before it are placed. -/
theorem store_of_turnsOf (h : Highlighter ω γ) (root : NodeId) (s : RunState ω)
    (front : List (Turn ω)) (turn : Turn ω) (back : List (Turn ω))
    (hs : h.turnsOf root s = front ++ turn :: back) :
    turn.state.store = s.store.placeAll (front.map (·.outcome h)) := by
  cases hook : (h.runHook s).1 with
  | error failure =>
    rw [turnsOf, hook] at hs
    exact (List.append_ne_nil_of_right_ne_nil front (List.cons_ne_nil turn back) hs.symm).elim
  | ok done =>
    rw [turnsOf_of_hook h root s hook] at hs
    obtain ⟨hfront, hstate⟩ := h.turns_eq_append _ _ front turn back hs
    rw [hstate, (h.took_processAll _ _).store, ← hfront, (loadLanguages_frame h root _).1,
      (runHook_frame h s).1]

/-- The renderer is asked for a block as it stood at the beginning. -/
theorem request_of_mem_turnsOf (h : Highlighter ω γ) (root : NodeId) (s : RunState ω)
    (turn : Turn ω) (ht : turn ∈ h.turnsOf root s) :
    turn.request h = h.request (s.store.get turn.block.1) (turn.request h).label := by
  have hn := lt_size_of_mem_discover _ root _ (h.mem_discover_of_turn root s turn ht)
  obtain ⟨front, back, hs⟩ := List.append_of_mem ht
  apply request_congr
  rw [h.store_of_turnsOf root s front turn back hs]
  exact s.store.bare_get_placeAll _ _ hn

/-- The store that a run leaves is told by its turns. -/
theorem store_transform (h : Highlighter ω γ) (root : NodeId) (s : RunState ω) :
    (h.transform root s).2.store = s.store.placeAll ((h.turnsOf root s).map (·.outcome h)) := by
  have hframe := (runHook_frame h s).1
  cases hook : (h.runHook s).1 with
  | error failure =>
    rw [transform_of_hook_error h root s failure hook, turnsOf, hook]
    exact hframe
  | ok done =>
    rw [turnsOf_of_hook h root s hook]
    by_cases hd : discover s.store root = []
    · rw [transform_of_no_blocks h root s hook hd, hd, inOrder, List.mergeSort_nil]
      exact hframe
    · rw [transform_of_hook h root s hook hd]
      dsimp only [RunState.note]
      rw [(h.took_processAll _ _).store, (loadLanguages_frame h root _).1, hframe]

/-- The last turn leaves the store of the run. -/
theorem store_of_last_turn (h : Highlighter ω γ) (root : NodeId) (s : RunState ω)
    (front : List (Turn ω)) (turn : Turn ω) (hs : h.turnsOf root s = front ++ [turn]) :
    (h.transform root s).2.store = (turn.next h).store := by
  rw [store_transform, hs, List.map_append, Store.placeAll_append,
    ← h.store_of_turnsOf root s front turn [] hs, turn.store_next h]
  rfl

/-- A run whose hook passes does not fail. -/
theorem transform_ok (h : Highlighter ω γ) (root : NodeId) (s : RunState ω)
    (hook : (h.runHook s).1 = .ok ()) : (h.transform root s).1 = .ok () := by
  by_cases hd : discover s.store root = []
  · rw [transform_of_no_blocks h root s hook hd]
  · rw [transform_of_hook h root s hook hd]

/-- The outcomes of turns are those of their blocks in order. -/
theorem map_fst_outcome (h : Highlighter ω γ) (turns : List (Turn ω)) :
    (turns.map (·.outcome h)).map Prod.fst = turns.map Turn.block := by
  rw [List.map_map]
  rfl

/-- The slots of outcomes are those of their blocks. -/
theorem map_slot_outcome (h : Highlighter ω γ) (turns : List (Turn ω)) :
    ((turns.map (·.outcome h)).map fun o => o.1.2) = turns.map (·.block.2) := by
  rw [List.map_map]
  rfl

/-- Every run replaces each slot by the parts of the first turn that has parts for it, with objects
that stand nowhere else. -/
theorem rewritten_transform (h : Highlighter ω γ) (root : NodeId) (s : RunState ω) :
    ∃ done : Replaced, s.store.Rewritten done (h.transform root s).2.store ∧
      (∀ slot, done.texts? slot =
        Store.firstParts ((h.turnsOf root s).map (·.outcome h)) slot) ∧ done.Apart := by
  rw [store_transform]
  cases hook : (h.runHook s).1 with
  | error failure =>
    have hnone : h.turnsOf root s = [] := by rw [turnsOf, hook]
    rw [hnone]
    exact ⟨fun _ => none, s.store.rewritten_refl, fun _ => rfl, ⟨nofun, nofun⟩⟩
  | ok done =>
    apply rewritten_apart_placeAll s.store root
    · rw [map_fst_outcome, h.map_block_turnsOf root s hook]
    · intro o ho
      obtain ⟨turn, -, rfl⟩ := List.mem_map.mp ho
      intro hnil
      cases length_of_answerParts? _ _ hnil

end Highlighter

end CodeHighlight
