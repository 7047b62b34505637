import CodeHighlight.Proofs.Highlighter.Turn

/-!
# The course of a run

A run calls the hook, then the supplier, then the renderer once for each block, and ends with a
summary. A failing hook ends it at once, and so does a document without blocks once the hook has
passed. The steps of a trace are told apart by whom they ask, and the phases follow from what a
load and a turn may add.
-/

namespace CodeHighlight

namespace Step

/-- The step calls the supplier. -/
def asksSupplier : Step → Bool
  | .fetch _ | .register _ => true
  | _ => false

/-- The step reports an error. -/
def isError : Step → Bool
  | .report (.error _ _) => true
  | _ => false

/-- The step reports how many blocks were converted and how many failed. -/
def isSummary : Step → Bool
  | .report (.event name _) => name = "code_blocks_highlighted"
  | _ => false

end Step

/-- Steps of no kind count as none of that kind. -/
theorem countP_of_quiet (kind : Step → Bool) (steps : List Step)
    (h : ∀ step ∈ steps, kind step = false) : steps.countP kind = 0 := by
  apply List.countP_eq_zero.mpr
  intro step hs
  rw [h step hs]
  exact Bool.false_ne_true

/-- Loading a language reports no error and sums up nothing. -/
theorem LoadSteps.quiet (language : String) (steps : List Step) (h : LoadSteps language steps)
    (step : Step) (hs : step ∈ steps) : step.isError = false ∧ step.isSummary = false := by
  cases h with
  | cached => cases hs
  | unknown | unfetched | unregistered | loaded =>
    revert step
    simp [Step.isError, Step.isSummary, Diagnostic.languageLoaded]

/-- Loads call no renderer, report no error and sum up nothing. -/
theorem quiet_loads (loads : List Load) (hl : ∀ load ∈ loads, LoadSteps load.1 load.2)
    (step : Step) (hs : step ∈ loads.flatMap Prod.snd) :
    step.request? = none ∧ step.isError = false ∧ step.isSummary = false := by
  obtain ⟨load, hload, hs⟩ := List.mem_flatMap.mp hs
  exact ⟨LoadSteps.request?_eq_none _ _ (hl load hload) step hs,
    LoadSteps.quiet _ _ (hl load hload) step hs⟩

namespace Turn

variable {ω γ : Type}

/-- A turn calls no supplier and sums up nothing. -/
theorem quiet (h : Highlighter ω γ) (t : Turn ω) (step : Step) (hs : step ∈ t.steps h) :
    step.asksSupplier = false ∧ step.isSummary = false := by
  cases hr : t.replaced h with
  | true =>
    rw [t.steps_of_replaced h hr] at hs
    revert step
    simp [Step.asksSupplier, Step.isSummary]
  | false =>
    obtain ⟨failure, hsteps, -⟩ := t.steps_of_stays h hr
    rw [hsteps] at hs
    revert step
    simp [Step.asksSupplier, Step.isSummary]

/-- Turns call no supplier and sum up nothing. -/
theorem quiet_turns (h : Highlighter ω γ) (turns : List (Turn ω)) (step : Step)
    (hs : step ∈ turns.flatMap (·.steps h)) :
    step.asksSupplier = false ∧ step.isSummary = false := by
  obtain ⟨t, -, hs⟩ := List.mem_flatMap.mp hs
  exact t.quiet h step hs

/-- A turn reports one error if its block stays, and none otherwise. -/
theorem countP_isError (h : Highlighter ω γ) (t : Turn ω) :
    (t.steps h).countP Step.isError = if t.replaced h then 0 else 1 := by
  cases hr : t.replaced h with
  | true =>
    rw [t.steps_of_replaced h hr]
    rfl
  | false =>
    obtain ⟨failure, hsteps, -⟩ := t.steps_of_stays h hr
    rw [hsteps]
    rfl

/-- Turns report one error for each block that stays. -/
theorem countP_isError_flatMap (h : Highlighter ω γ) (turns : List (Turn ω)) :
    (turns.flatMap (·.steps h)).countP Step.isError = turns.countP (!·.replaced h) := by
  induction turns with
  | nil => rfl
  | cons t rest ih =>
    rw [List.flatMap_cons, List.countP_append, countP_isError, ih, List.countP_cons, Nat.add_comm]
    cases t.replaced h <;> rfl

end Turn

namespace Highlighter

variable {ω γ : Type}

/-- The step of the hook, if there is one. -/
def hookSteps (h : Highlighter ω γ) : List Step := if h.hook.isSome then [.hook] else []

/-- The hook calls no renderer, reports no error and sums up nothing. -/
theorem quiet_hookSteps (h : Highlighter ω γ) (step : Step) (hs : step ∈ h.hookSteps) :
    step.request? = none ∧ step.isError = false ∧ step.isSummary = false := by
  rw [hookSteps] at hs
  split at hs
  · rw [List.mem_singleton.mp hs]
    exact ⟨rfl, rfl, rfl⟩
  · cases hs

/-- The hook, if there is one, does not fail. -/
def Passes (h : Highlighter ω γ) (s : RunState ω) : Prop :=
  ∀ hook, h.hook = some hook → (hook s.world).1 = .ok ()

/-- What calling the hook leaves. -/
theorem trace_runHook (h : Highlighter ω γ) (s : RunState ω) :
    (h.runHook s).2.trace = s.trace ++ h.hookSteps := by
  rw [runHook, hookSteps]
  cases h.hook with
  | none => exact (List.append_nil _).symm
  | some hook => rfl

/-- The run passes the hook exactly if the hook does not fail. -/
theorem passes_iff (h : Highlighter ω γ) (s : RunState ω) :
    h.Passes s ↔ (h.runHook s).1 = .ok () := by
  rw [Passes, runHook]
  cases h.hook with
  | none => simp
  | some hook => simp [RunState.note]

/-- The run fails with what the hook fails with. -/
theorem runHook_eq_error_iff (h : Highlighter ω γ) (s : RunState ω) (failure : Failure) :
    (h.runHook s).1 = .error failure ↔
      ∃ hook, h.hook = some hook ∧ (hook s.world).1 = .error failure := by
  rw [runHook]
  cases h.hook with
  | none => simp
  | some hook => simp [RunState.note]

/-- The phases of a run over a document with blocks, told by the loads of its languages and the
turns of its blocks. -/
structure Phases (h : Highlighter ω γ) (root : NodeId) (s t : RunState ω) (loads : List Load) :
    Prop where
  /-- The hook comes first, then all loads, then all turns, then the summary. -/
  trace : t.trace = s.trace ++ (h.hookSteps ++ loads.flatMap Prod.snd ++
    (h.turnsOf root s).flatMap (·.steps h) ++
      [.report (.blocksHighlighted ((h.turnsOf root s).countP (·.replaced h))
        ((h.turnsOf root s).countP (!·.replaced h)))])
  /-- The languages of the document are loaded once each. -/
  languages : loads.map Prod.fst = Language.collect s.store root
  /-- A load calls the supplier and reports what came of it. -/
  load : ∀ load ∈ loads, LoadSteps load.1 load.2
  /-- The blocks found have one turn each, in the order of processing. -/
  blocks : (h.turnsOf root s).map Turn.block = inOrder (discover s.store root)
  /-- A turn begins with the store in which the blocks before it have given way. -/
  begins : ∀ front turn back, h.turnsOf root s = front ++ turn :: back →
    turn.state.store = s.store.placeAll (front.map (·.outcome h))
  /-- A block that gives way is rendered, and the parts of its bundle stand in its place. -/
  replaced : ∀ turn ∈ h.turnsOf root s, turn.replaced h = true →
    turn.steps h = [.render (turn.request h),
      .replaced (turn.request h).language turn.block.2.index (turn.request h).label] ∧
    ∃ parts, (turn.outcome h).2 = some parts ∧
      (turn.next h).store = turn.state.store.spliced turn.block.2 parts
  /-- Any other block is rendered and reported once, and the store stays. -/
  stays : ∀ turn ∈ h.turnsOf root s, turn.replaced h = false →
    (∃ failure, turn.steps h = [.render (turn.request h), .report (.error
      ("Failed to process code block (lang: " ++ (turn.request h).language ++ ")")
      (some failure))]) ∧
    (turn.next h).store = turn.state.store
  /-- The run leaves the store that its last turn leaves. -/
  ends : ∀ front turn, h.turnsOf root s = front ++ [turn] → t.store = (turn.next h).store
  /-- In that store every block that gave way has done so, and no other. -/
  store : t.store = s.store.placeAll ((h.turnsOf root s).map (·.outcome h))
  /-- Every block counts as converted or as failed. -/
  counts : (h.turnsOf root s).countP (·.replaced h) + (h.turnsOf root s).countP (!·.replaced h) =
    (discover s.store root).length
  /-- As many blocks failed as errors are reported. -/
  errors : t.trace.countP Step.isError =
    s.trace.countP Step.isError + (h.turnsOf root s).countP (!·.replaced h)
  /-- There is one summary. -/
  summary : t.trace.countP Step.isSummary = s.trace.countP Step.isSummary + 1
  /-- The supplier is not called behind a call of the renderer. -/
  order : ∀ front request back, t.trace = s.trace ++ (front ++ .render request :: back) →
    ∀ step ∈ back, step.asksSupplier = false

/-- How a run may go. -/
inductive Course (h : Highlighter ω γ) (root : NodeId) (s : RunState ω) :
    Except Failure Unit × RunState ω → Prop where
  /-- The hook fails: its failure is the result, the trace is the hook alone, and the store, the
  counter and the memory stay. -/
  | refused (hook : Action ω Unit) (failure : Failure) (t : RunState ω)
      (hooked : h.hook = some hook) (fails : (hook s.world).1 = .error failure)
      (trace : t.trace = s.trace ++ [.hook]) (store : t.store = s.store)
      (context : t.context = s.context) : Course h root s (.error failure, t)
  /-- There is no block: the run ends behind the hook. -/
  | idle (t : RunState ω) (passes : h.Passes s) (none : discover s.store root = [])
      (trace : t.trace = s.trace ++ h.hookSteps) (store : t.store = s.store)
      (context : t.context = s.context) : Course h root s (.ok (), t)
  /-- There are blocks: the run goes through all phases. -/
  | phased (t : RunState ω) (loads : List Load) (passes : h.Passes s)
      (some : discover s.store root ≠ []) (phases : h.Phases root s t loads) :
      Course h root s (.ok (), t)

/-- Behind the first call of the renderer the supplier is not called, if the calls of the supplier
stand in front and those of the renderer at the end. -/
theorem asksSupplier_of_render (early late front back : List Step) (request : RenderRequest)
    (hearly : ∀ step ∈ early, step.request? = none)
    (hlate : ∀ step ∈ late, step.asksSupplier = false)
    (hs : early ++ late = front ++ .render request :: back) (step : Step) (hb : step ∈ back) :
    step.asksSupplier = false := by
  apply hlate
  rcases List.append_eq_append_iff.mp hs with ⟨more, hfront, hmore⟩ | ⟨more, hfront, hmore⟩
  · rw [hmore]
    exact List.mem_append_right _ (List.mem_cons_of_mem _ hb)
  · cases more with
    | nil =>
      rw [List.nil_append] at hmore
      rw [← hmore]
      exact List.mem_cons_of_mem _ hb
    | cons first more =>
      -- Then the renderer would be called early.
      obtain ⟨hfirst, -⟩ := List.cons.inj hmore
      have hquiet := hearly first (hfront ▸ List.mem_append_right _ List.mem_cons_self)
      rw [← hfirst] at hquiet
      cases hquiet

/-- What loading the languages of a document adds to the trace. -/
theorem exists_trace_loadLanguages (h : Highlighter ω γ) (root : NodeId) (s : RunState ω) :
    ∃ loads : List Load, loads.map Prod.fst = Language.collect s.store root ∧
      (∀ load ∈ loads, LoadSteps load.1 load.2) ∧
      (h.loadLanguages root s).trace = s.trace ++ loads.flatMap Prod.snd := by
  obtain ⟨loads, hlanguages, hloads, htrace⟩ := LoadState.exists_trace_loadAll h.supply
    (Language.distinct (Language.collect s.store root)) ⟨s.world, s.context.languages, s.trace⟩
  refine ⟨loads, ?_, hloads, htrace⟩
  rw [hlanguages, Language.distinct_of_nodup _ (Language.nodup_collect s.store root)]

/-- The trace of a run over a document with blocks. -/
theorem trace_transform (h : Highlighter ω γ) (root : NodeId) (s : RunState ω)
    (hook : (h.runHook s).1 = .ok ()) (hd : discover s.store root ≠ []) :
    (h.transform root s).2.trace =
      (h.loadLanguages root (h.runHook s).2).trace ++ (h.turnsOf root s).flatMap (·.steps h) ++
        [.report (.blocksHighlighted ((h.turnsOf root s).countP (·.replaced h))
          ((h.turnsOf root s).countP (!·.replaced h)))] := by
  have took := h.took_processAll (inOrder (discover s.store root))
    (h.loadLanguages root (h.runHook s).2)
  rw [transform_of_hook h root s hook hd, turnsOf_of_hook h root s hook]
  dsimp only [RunState.note]
  rw [took.trace, took.counts]

private theorem countP_phases (h : Highlighter ω γ) (kind : Step → Bool)
    (before loads turns : List Step) (last : Step) (hhook : ∀ step ∈ h.hookSteps, kind step = false)
    (hload : ∀ step ∈ loads, kind step = false) :
    (before ++ (h.hookSteps ++ loads ++ turns ++ [last])).countP kind =
      before.countP kind + (turns.countP kind + [last].countP kind) := by
  simp only [List.countP_append]
  rw [countP_of_quiet kind _ hhook, countP_of_quiet kind _ hload, Nat.add_zero, Nat.zero_add]

/-- A run over a document with blocks goes through all phases. -/
theorem phases_transform (h : Highlighter ω γ) (root : NodeId) (s : RunState ω)
    (hook : (h.runHook s).1 = .ok ()) (hd : discover s.store root ≠ []) :
    ∃ loads, h.Phases root s (h.transform root s).2 loads := by
  obtain ⟨loads, hlanguages, hloads, hloaded⟩ :=
    h.exists_trace_loadLanguages root (h.runHook s).2
  rw [(runHook_frame h s).1] at hlanguages
  have htrace := h.trace_transform root s hook hd
  rw [hloaded, trace_runHook, List.append_assoc s.trace, List.append_assoc s.trace,
    List.append_assoc s.trace] at htrace
  have hblocks := h.map_block_turnsOf root s hook
  exact ⟨loads, {
    trace := htrace
    languages := hlanguages
    load := hloads
    blocks := hblocks
    begins := h.store_of_turnsOf root s
    replaced := by
      intro turn _ hr
      have hstore := turn.store_cases h
      rw [if_pos hr] at hstore
      exact ⟨turn.steps_of_replaced h hr, hstore⟩
    stays := by
      intro turn _ hr
      have hstore := turn.store_cases h
      rw [hr, if_neg Bool.false_ne_true] at hstore
      obtain ⟨failure, hsteps, -⟩ := turn.steps_of_stays h hr
      exact ⟨⟨failure, hsteps⟩, hstore⟩
    ends := h.store_of_last_turn root s
    store := h.store_transform root s
    counts := by
      have hlength := congrArg List.length hblocks
      rw [List.length_map, (order_inOrder _).perm.length_eq,
        List.length_eq_countP_add_countP (·.replaced h)] at hlength
      simpa using hlength
    errors := by
      rw [htrace, h.countP_phases Step.isError _ _ _ _
        (fun step hs => (h.quiet_hookSteps step hs).2.1)
        (fun step hs => (quiet_loads loads hloads step hs).2.1), Turn.countP_isError_flatMap]
      rfl
    summary := by
      have hturn := countP_of_quiet Step.isSummary _ fun step hs =>
        (Turn.quiet_turns h (h.turnsOf root s) step hs).2
      rw [htrace, h.countP_phases Step.isSummary _ _ _ _
        (fun step hs => (h.quiet_hookSteps step hs).2.2)
        (fun step hs => (quiet_loads loads hloads step hs).2.2), hturn, Nat.zero_add]
      rfl
    order := by
      intro front request back hs
      rw [htrace, List.append_cancel_left_eq, List.append_assoc] at hs
      apply asksSupplier_of_render _ _ front back request _ _ hs
      · intro step hstep
        rcases List.mem_append.mp hstep with hstep | hstep
        · exact (h.quiet_hookSteps step hstep).1
        · exact (quiet_loads loads hloads step hstep).1
      · intro step hstep
        rcases List.mem_append.mp hstep with hstep | hstep
        · exact (Turn.quiet_turns h _ step hstep).1
        · rw [List.mem_singleton.mp hstep]
          rfl }⟩

/-- Every run ends at the hook that fails, or behind it where there is no block, or goes through all
phases. -/
theorem course_transform (h : Highlighter ω γ) (root : NodeId) (s : RunState ω) :
    h.Course root s (h.transform root s) := by
  obtain ⟨hstore, hcontext, -⟩ := runHook_frame h s
  cases hook : (h.runHook s).1 with
  | error failure =>
    obtain ⟨action, hhooked, hfails⟩ := (h.runHook_eq_error_iff s failure).mp hook
    rw [transform_of_hook_error h root s failure hook]
    apply Course.refused action failure _ hhooked hfails _ hstore hcontext
    rw [trace_runHook, hookSteps, hhooked]
    rfl
  | ok done =>
    have hpasses := (h.passes_iff s).mpr hook
    by_cases hd : discover s.store root = []
    · rw [transform_of_no_blocks h root s hook hd]
      exact Course.idle _ hpasses hd (trace_runHook h s) hstore hcontext
    · obtain ⟨loads, hphases⟩ := phases_transform h root s hook hd
      have hok := h.transform_ok root s hook
      cases hr : h.transform root s with
      | mk result t =>
        rw [hr] at hok hphases
        dsimp only at hok hphases
        rw [hok]
        exact Course.phased t loads hpasses hd hphases

end Highlighter

end CodeHighlight
