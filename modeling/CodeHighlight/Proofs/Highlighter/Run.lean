import CodeHighlight.Proofs.Document.Replace
import CodeHighlight.Proofs.Language.Loader

/-!
# Runs of a highlighter

One block is one call of the renderer, one attempt to put its answer in the block's place, and one
note of what came of it. From this step follows what a whole run does: the requests are those of the
blocks in order with consecutive labels, and the store is the one that placing the outcomes leaves.
The renderer may act on its world, as long as its answers stay a function of the request.
-/

namespace CodeHighlight

/-- The parts in an answer of the renderer, if it has them all. -/
def answerParts? : Except Failure Payload → Option (List String)
  | .ok ⟨some markup, some style, some script⟩ => some [markup, style, script]
  | _ => none

/-- The parts of a payload are those that the check lets pass. -/
theorem answerParts?_ok (payload : Payload) :
    answerParts? (.ok payload) = payload.parts.toOption := by
  obtain ⟨markup, style, script⟩ := payload
  cases markup with
  | none => rfl
  | some markup =>
    cases style with
    | none => rfl
    | some style => cases script <;> rfl

/-- An answer has no parts or three. -/
theorem length_of_answerParts? (answer : Except Failure Payload) (parts : List String)
    (h : answerParts? answer = some parts) : parts.length = 3 := by
  rw [answerParts?.eq_def] at h
  split at h
  · cases h
    rfl
  · cases h

namespace LabelCounter

/-- The counter after several mints. -/
def after (c : LabelCounter) (mints : Nat) : LabelCounter := { c with value := c.value + mints }

/-- A mint first, then the others. -/
theorem after_succ (c : LabelCounter) (mints : Nat) :
    c.after (mints + 1) = c.next.2.after mints := by
  simp [after, next, Nat.add_comm mints, Nat.add_assoc]

end LabelCounter

namespace Highlighter

variable {ω γ : Type}

/-- What the renderer is asked for a block when `j` blocks have been processed before. -/
def requestAt (h : Highlighter ω γ) (s : Store) (counter : LabelCounter) (j : Nat)
    (block : NodeId × Slot) : RenderRequest where
  code := (s.get block.1).value.getD ""
  language := Language.normalize (s.get block.1).language
  theme := h.theme
  label := counter.stem ++ "-" ++ toString (counter.value + (j + 1))
  directives := (Directives.ofMeta (s.get block.1).info).withDefaults h.defaults

/-- What the renderer is asked for blocks that are processed one after the other. -/
def requests (h : Highlighter ω γ) (s : Store) (counter : LabelCounter)
    (blocks : List (NodeId × Slot)) : List RenderRequest :=
  blocks.mapIdx (h.requestAt s counter)

/-- What becomes of blocks that are processed one after the other. -/
def outcomes (h : Highlighter ω γ) (answer : RenderRequest → Except Failure Payload) (s : Store)
    (counter : LabelCounter) (blocks : List (NodeId × Slot)) : List Outcome :=
  blocks.zip ((h.requests s counter blocks).map fun request => answerParts? (answer request))

private theorem requestAt_zero (h : Highlighter ω γ) (s : Store) (counter : LabelCounter)
    (block : NodeId × Slot) :
    h.requestAt s counter 0 block = h.request (s.get block.1) counter.next.1 := rfl

private theorem requestAt_succ (h : Highlighter ω γ) (s : Store) (counter : LabelCounter) (j : Nat)
    (block : NodeId × Slot) :
    h.requestAt s counter (j + 1) block = h.requestAt s counter.next.2 j block := by
  have hn : counter.value + (j + 1 + 1) = counter.next.2.value + (j + 1) := by
    rw [LabelCounter.value_next]
    omega
  rw [requestAt, requestAt, hn, LabelCounter.stem_next]

/-- The requests for a block and those behind it. -/
theorem requests_cons (h : Highlighter ω γ) (s : Store) (counter : LabelCounter)
    (block : NodeId × Slot) (rest : List (NodeId × Slot)) :
    h.requests s counter (block :: rest) =
      h.request (s.get block.1) counter.next.1 :: h.requests s counter.next.2 rest := by
  rw [requests, List.mapIdx_cons, requestAt_zero, requests]
  congr 2
  funext j block'
  exact requestAt_succ h s counter j block'

/-- One outcome for each block, in the order of processing. -/
theorem outcomes_cons (h : Highlighter ω γ) (answer : RenderRequest → Except Failure Payload)
    (s : Store) (counter : LabelCounter) (block : NodeId × Slot) (rest : List (NodeId × Slot)) :
    h.outcomes answer s counter (block :: rest) =
      (block, answerParts? (answer (h.request (s.get block.1) counter.next.1))) ::
        h.outcomes answer s counter.next.2 rest := by
  rw [outcomes, requests_cons, List.map_cons, List.zip_cons_cons, outcomes]

/-- There is a request for each block. -/
@[simp] theorem length_requests (h : Highlighter ω γ) (s : Store) (counter : LabelCounter)
    (blocks : List (NodeId × Slot)) : (h.requests s counter blocks).length = blocks.length := by
  rw [requests, List.length_mapIdx]

/-- The blocks of outcomes are the blocks processed. -/
theorem map_fst_outcomes (h : Highlighter ω γ) (answer : RenderRequest → Except Failure Payload)
    (s : Store) (counter : LabelCounter) (blocks : List (NodeId × Slot)) :
    (h.outcomes answer s counter blocks).map Prod.fst = blocks := by
  rw [outcomes, List.map_fst_zip]
  apply Nat.le_of_eq
  rw [List.length_map, length_requests]

/-- The outcome of a block is what the renderer answers to its own request. -/
theorem getElem?_outcomes (h : Highlighter ω γ) (answer : RenderRequest → Except Failure Payload)
    (s : Store) (counter : LabelCounter) (blocks : List (NodeId × Slot)) (j : Nat)
    (block : NodeId × Slot) (hj : blocks[j]? = some block) :
    (h.outcomes answer s counter blocks)[j]? =
      some (block, answerParts? (answer (h.requestAt s counter j block))) := by
  rw [outcomes, List.getElem?_zip_eq_some, List.getElem?_map, requests, List.getElem?_mapIdx, hj]
  exact ⟨rfl, rfl⟩

/-- No block is to give way to nothing. -/
theorem ne_of_mem_outcomes (h : Highlighter ω γ) (answer : RenderRequest → Except Failure Payload)
    (s : Store) (counter : LabelCounter) (blocks : List (NodeId × Slot)) (o : Outcome)
    (ho : o ∈ h.outcomes answer s counter blocks) : o.2 ≠ some [] := by
  have hmem : o.2 ∈
      (h.requests s counter blocks).map fun request => answerParts? (answer request) :=
    (List.of_mem_zip (show (o.1, o.2) ∈ _ from ho)).2
  obtain ⟨request, -, he⟩ := List.mem_map.mp hmem
  intro hnil
  have hthree := length_of_answerParts? _ _ (he.trans hnil)
  cases hthree

/-- A request reads no children. -/
theorem request_congr (h : Highlighter ω γ) (r r' : NodeRecord) (label : String)
    (hr : r.bare = r'.bare) : h.request r label = h.request r' label := by
  have hbare : ∀ r : NodeRecord, h.request r label = h.request r.bare label := fun _ => rfl
  rw [hbare r, hr, ← hbare]

/-- Every world that the renderer reaches from one in `inv` keeps its answers to those of `answer`.
-/
def Answers (h : Highlighter ω γ) (inv : ω → Prop)
    (answer : RenderRequest → Except Failure Payload) : Prop :=
  ∀ request w, inv w → (h.renderer request w).1 = answer request ∧ inv (h.renderer request w).2

/-- What the renderer is asked for the next block. -/
def nextRequest (h : Highlighter ω γ) (block : NodeId × Slot) (s : RunState ω) : RenderRequest :=
  h.request (s.store.get block.1) s.context.counter.next.1

/-- The language of a request is that of the block. -/
theorem language_nextRequest (h : Highlighter ω γ) (block : NodeId × Slot) (s : RunState ω) :
    (h.nextRequest block s).language = Language.normalize (s.store.get block.1).language := by
  rw [nextRequest, request]

/-- What comes of the next block. -/
def nextOutcome (h : Highlighter ω γ) (block : NodeId × Slot) (s : RunState ω) : Outcome :=
  (block, answerParts? (h.renderer (h.nextRequest block s) s.world).1)

/-- The state in which the renderer has answered and nothing is placed yet. -/
def called (h : Highlighter ω γ) (block : NodeId × Slot) (s : RunState ω) : RunState ω where
  world := (h.renderer (h.nextRequest block s) s.world).2
  context := { s.context with counter := s.context.counter.next.2 }
  store := s.store
  trace := s.trace ++ [.render (h.nextRequest block s)]

/-- The report of a block that stays. -/
def stays (block : NodeId × Slot) (s : RunState ω) (failure : Failure) : Step :=
  .report (.error ("Failed to process code block (lang: " ++
    Language.normalize (s.store.get block.1).language ++ ")") (some failure))

/-- A block whose parts are placed is noted as replaced. -/
theorem process_of_placed (h : Highlighter ω γ) (block : NodeId × Slot) (s : RunState ω)
    (store : Store) (hp : s.store.place? (h.nextOutcome block s) = some store) :
    h.process block s = (true, { h.called block s with store }.note
      (.replaced (h.nextRequest block s).language block.2.index s.context.counter.next.1)) := by
  cases hr : h.renderer (h.nextRequest block s) s.world with
  | mk result world =>
    have hw : (h.called block s).world = world := by rw [called, hr]
    rw [nextOutcome, hr] at hp
    cases result with
    | error failure => cases hp
    | ok payload =>
      cases hparts : payload.parts with
      | error failure =>
        rw [answerParts?_ok, hparts] at hp
        cases hp
      | ok parts =>
        rw [answerParts?_ok, hparts, Store.place?] at hp
        cases hb : replaceBlock s.store block parts with
        | error fault =>
          rw [Except.toOption, Option.bind_some, hb] at hp
          cases hp
        | ok next =>
          rw [Except.toOption, Option.bind_some, hb] at hp
          cases hp
          rw [nextRequest] at hr
          simp only [process, convert, RunState.note, hr, hparts, hb, called, nextRequest]

/-- A block whose parts are missing or cannot be placed is reported; where its parts are there, it
is reported as moved. -/
theorem process_of_not_placed (h : Highlighter ω γ) (block : NodeId × Slot) (s : RunState ω)
    (hp : s.store.place? (h.nextOutcome block s) = none) :
    ∃ failure, h.process block s = (false, (h.called block s).note (stays block s failure)) ∧
      ((h.nextOutcome block s).2.isSome → failure = SpliceFault.moved.failure) := by
  cases hr : h.renderer (h.nextRequest block s) s.world with
  | mk result world =>
    rw [nextOutcome, hr] at hp ⊢
    rw [nextRequest] at hr
    cases result with
    | error failure =>
      refine ⟨failure, ?_, nofun⟩
      simp only [process, convert, RunState.note, hr, called, nextRequest, stays]
    | ok payload =>
      rw [answerParts?_ok] at hp ⊢
      cases hparts : payload.parts with
      | error failure =>
        refine ⟨failure, ?_, nofun⟩
        simp only [process, convert, RunState.note, hr, hparts, called, nextRequest, stays]
      | ok parts =>
        rw [hparts, Store.place?, Except.toOption, Option.bind_some] at hp
        cases hb : replaceBlock s.store block parts with
        | ok next =>
          rw [hb] at hp
          cases hp
        | error fault =>
          refine ⟨fault.failure, ?_, ?_⟩
          · simp only [process, convert, RunState.note, hr, hparts, hb, called, nextRequest, stays]
          · intro _
            rw [Store.eq_moved_of_replaceBlock s.store block.1 block.2 parts fault hb]

/-- What one block does to the state of a run. -/
structure Processed (h : Highlighter ω γ) (block : NodeId × Slot) (s : RunState ω)
    (result : Bool × RunState ω) : Prop where
  done : result.1 = (s.store.place? (h.nextOutcome block s)).isSome
  world : result.2.world = (h.renderer (h.nextRequest block s) s.world).2
  store : result.2.store = (s.store.place? (h.nextOutcome block s)).getD s.store
  counter : result.2.context.counter = s.context.counter.next.2
  languages : result.2.context.languages = s.context.languages
  trace : ∃ step : Step, step.request? = none ∧
    result.2.trace = s.trace ++ [.render (h.nextRequest block s), step]

/-- One block is one call of the renderer and one attempt to place its answer. -/
theorem processed_process (h : Highlighter ω γ) (block : NodeId × Slot) (s : RunState ω) :
    h.Processed block s (h.process block s) := by
  cases hp : s.store.place? (h.nextOutcome block s) with
  | some store =>
    rw [process_of_placed h block s store hp]
    constructor
    case done => rw [hp, Option.isSome_some]
    case world => rfl
    case store =>
      rw [hp, Option.getD_some]
      rfl
    case counter => rfl
    case languages => rfl
    case trace => exact ⟨_, rfl, List.append_assoc _ _ _⟩
  | none =>
    obtain ⟨failure, hprocess, -⟩ := process_of_not_placed h block s hp
    rw [hprocess]
    constructor
    case done => rw [hp, Option.isSome_none]
    case world => rfl
    case store =>
      rw [hp, Option.getD_none]
      rfl
    case counter => rfl
    case languages => rfl
    case trace => exact ⟨_, rfl, List.append_assoc _ _ _⟩

/-- A block first, then the others; the counts tell of both. -/
theorem processAll_cons (h : Highlighter ω γ) (block : NodeId × Slot) (rest : List (NodeId × Slot))
    (s : RunState ω) :
    h.processAll (block :: rest) s =
      (if (h.process block s).1 then
          ((h.processAll rest (h.process block s).2).1.1 + 1,
            (h.processAll rest (h.process block s).2).1.2)
        else ((h.processAll rest (h.process block s).2).1.1,
          (h.processAll rest (h.process block s).2).1.2 + 1),
        (h.processAll rest (h.process block s).2).2) := rfl

/-- What a run over blocks does to the state, with requests and outcomes read off a store `before`
that has the same objects apart from their children. -/
structure ProcessedAll (h : Highlighter ω γ) (inv : ω → Prop)
    (answer : RenderRequest → Except Failure Payload) (before : Store)
    (blocks : List (NodeId × Slot)) (s t : RunState ω) : Prop where
  world : inv t.world
  store : t.store = s.store.placeAll (h.outcomes answer before s.context.counter blocks)
  counter : t.context.counter = s.context.counter.after blocks.length
  languages : t.context.languages = s.context.languages
  requests : requestsOf t.trace =
    requestsOf s.trace ++ h.requests before s.context.counter blocks

/-- A run over blocks asks for each of them once, in order and with consecutive labels, and places
what the renderer answers. -/
theorem processedAll_processAll (h : Highlighter ω γ) (inv : ω → Prop)
    (answer : RenderRequest → Except Failure Payload) (ha : h.Answers inv answer) (before : Store)
    (blocks : List (NodeId × Slot)) (s : RunState ω) (hw : inv s.world)
    (hsize : before.records.size ≤ s.store.records.size)
    (hb : ∀ block ∈ blocks, block.1 < before.records.size)
    (hbare : ∀ n, n < before.records.size → (s.store.get n).bare = (before.get n).bare) :
    h.ProcessedAll inv answer before blocks s (h.processAll blocks s).2 := by
  induction blocks generalizing s with
  | nil => exact ⟨hw, rfl, rfl, rfl, by simp [processAll, requests]⟩
  | cons block rest ih =>
    have hblock := hb block List.mem_cons_self
    have hp := processed_process h block s
    have hrequest : h.nextRequest block s =
        h.request (before.get block.1) s.context.counter.next.1 :=
      request_congr h _ _ _ (hbare block.1 hblock)
    have hanswer := ha (h.nextRequest block s) s.world hw
    have houtcome : h.nextOutcome block s = (block,
        answerParts? (answer (h.request (before.get block.1) s.context.counter.next.1))) := by
      rw [nextOutcome, hanswer.1, hrequest]
    have hgrown := s.store.size_le_place (h.nextOutcome block s)
    have hkept := s.store.bare_get_place (h.nextOutcome block s)
    rw [← hp.store] at hgrown hkept
    have hbare' : ∀ n, n < before.records.size →
        ((h.process block s).2.store.get n).bare = (before.get n).bare := by
      intro n hn
      rw [hkept n (Nat.lt_of_lt_of_le hn hsize), hbare n hn]
    have hrest := ih (h.process block s).2 (by rw [hp.world]; exact hanswer.2)
      (Nat.le_trans hsize hgrown) (fun b hb' => hb b (List.mem_cons_of_mem _ hb')) hbare'
    obtain ⟨step, hstep', htrace⟩ := hp.trace
    rw [processAll_cons]
    constructor
    case world => exact hrest.world
    case store => rw [hrest.store, hp.store, hp.counter, outcomes_cons, Store.placeAll, houtcome]
    case counter => rw [hrest.counter, hp.counter, List.length_cons, LabelCounter.after_succ]
    case languages => rw [hrest.languages, hp.languages]
    case requests =>
      have hnew : [Step.render (h.nextRequest block s), step].filterMap Step.request? =
          [h.nextRequest block s] := by
        have hcall : (Step.render (h.nextRequest block s)).request? = h.nextRequest block s := rfl
        rw [List.filterMap_cons_some hcall, List.filterMap_cons_none hstep', List.filterMap_nil]
      rw [hrest.requests, hp.counter, htrace, requests_cons, requestsOf, List.filterMap_append,
        hnew, List.append_assoc, hrequest]
      rfl

end Highlighter

end CodeHighlight
