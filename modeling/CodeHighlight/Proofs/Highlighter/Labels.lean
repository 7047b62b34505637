import CodeHighlight.Highlighter.Registries
import CodeHighlight.Proofs.Block.Label
import CodeHighlight.Proofs.Highlighter.Course

/-!
# Labels of runs

Runs over documents one after the other share a context, and each turn takes one label, whatever
comes of its block. So the labels are those of the counter in a row, across blocks that fail and
across documents. What the blocks identify on the page is headed by their labels, and each of it
stands there once.
-/

namespace CodeHighlight

namespace LabelCounter

/-- The next labels of a counter. -/
def minted (c : LabelCounter) (mints : Nat) : List String :=
  (List.range' (c.value + 1) mints).map c.label

/-- A label first, then the others. -/
theorem minted_succ (c : LabelCounter) (mints : Nat) :
    c.minted (mints + 1) = c.next.1 :: c.next.2.minted mints := by
  rw [minted, List.range'_succ, List.map_cons]
  rfl

/-- Some labels first, then the others. -/
theorem minted_add (c : LabelCounter) (first second : Nat) :
    c.minted (first + second) = c.minted first ++ (c.after first).minted second := by
  have hvalue : (c.after first).value + 1 = c.value + 1 + first := Nat.add_right_comm _ _ _
  rw [minted, minted, minted, hvalue, ← List.range'_append_1, List.map_append]
  rfl

/-- Some mints first, then the others. -/
theorem after_add (c : LabelCounter) (first second : Nat) :
    c.after (first + second) = (c.after first).after second := by
  simp [after, Nat.add_assoc]

/-- No label is minted twice. -/
theorem nodup_minted (c : LabelCounter) (mints : Nat) : (c.minted mints).Nodup :=
  (List.nodup_range' 1).map c.label_injective

/-- Texts of members that have labels in a row are different, if they are headed by those labels and
those of one member are different. -/
theorem nodup_flatMap_of_headed {α β : Type} (c : LabelCounter) (members : List α)
    (label : α → String) (texts : α → List β) (chars : β → List Char)
    (hlabels : members.map label = c.minted members.length)
    (hnodup : ∀ a ∈ members, (texts a).Nodup)
    (hheaded : ∀ a ∈ members, ∀ text ∈ texts a, Block.Headed (label a) (chars text)) :
    (members.flatMap texts).Nodup := by
  have hminted : ∀ a ∈ members, ∃ n, c.label n = label a := by
    intro a ha
    have hmem : label a ∈ c.minted members.length := hlabels ▸ List.mem_map_of_mem ha
    obtain ⟨n, -, hn⟩ := List.mem_map.mp hmem
    exact ⟨n, hn⟩
  have hpairs : members.Pairwise fun a b => label a ≠ label b := by
    rw [← List.pairwise_map (f := label) (R := (· ≠ ·)), hlabels]
    exact c.nodup_minted _
  rw [List.nodup_flatMap]
  refine ⟨hnodup, hpairs.imp_of_mem ?_⟩
  intro a b ha hb hne text hta htb
  obtain ⟨m, hm⟩ := hminted a ha
  obtain ⟨n, hn⟩ := hminted b hb
  have hma := hheaded a ha text hta
  have hnb := hheaded b hb text htb
  rw [← hm] at hma hne
  rw [← hn] at hnb hne
  exact hne (congrArg c.label (c.eq_of_headed hma hnb))

end LabelCounter

/-! ## One run -/

/-- A call of the renderer: the block, what was asked for it, and the answer. -/
structure Rendering where
  block : NodeId × Slot
  request : RenderRequest
  answer : Except Failure Payload

namespace Turn

variable {ω γ : Type}

/-- The call of the renderer in a turn. -/
def rendering (h : Highlighter ω γ) (t : Turn ω) : Rendering :=
  ⟨t.block, t.request h, (h.renderer (t.request h) t.state.world).1⟩

private theorem requestsOf_steps (h : Highlighter ω γ) (t : Turn ω) :
    requestsOf (t.steps h) = [t.request h] := by
  cases hr : t.replaced h with
  | true =>
    rw [t.steps_of_replaced h hr]
    rfl
  | false =>
    obtain ⟨failure, hsteps, -⟩ := t.steps_of_stays h hr
    rw [hsteps]
    rfl

/-- Turns call the renderer once each. -/
theorem requestsOf_flatMap (h : Highlighter ω γ) (turns : List (Turn ω)) :
    requestsOf (turns.flatMap (·.steps h)) = turns.map (·.request h) := by
  induction turns with
  | nil => rfl
  | cons turn rest ih =>
    rw [List.flatMap_cons, requestsOf_append, turn.requestsOf_steps h, ih]
    rfl

end Turn

namespace Highlighter

variable {ω γ : Type}

/-- Every turn takes the next label. -/
theorem map_label_turns (h : Highlighter ω γ) (blocks : List (NodeId × Slot)) (s : RunState ω) :
    (h.turns blocks s).map (fun t => (t.request h).label) =
      s.context.counter.minted (h.turns blocks s).length := by
  induction blocks generalizing s with
  | nil => rfl
  | cons block rest ih =>
    have hcounter := (h.processed_process block s).counter
    rw [turns, List.map_cons, ih, hcounter, List.length_cons, LabelCounter.minted_succ]
    rfl

/-- What a run does to the counter, told by its turns. -/
structure Counted (h : Highlighter ω γ) (turns : List (Turn ω)) (s t : RunState ω) : Prop where
  /-- The turns take the next labels. -/
  labels : turns.map (fun turn => (turn.request h).label) = s.context.counter.minted turns.length
  /-- The counter has gone on by one for each turn. -/
  counter : t.context.counter = s.context.counter.after turns.length
  /-- The renderer is called once in each turn. -/
  calls : requestsOf t.trace = requestsOf s.trace ++ turns.map (·.request h)

/-- Without turns the counter stays. -/
theorem counted_nil (h : Highlighter ω γ) (s t : RunState ω) (hcontext : t.context = s.context)
    (htrace : requestsOf t.trace = requestsOf s.trace) : h.Counted [] s t := by
  constructor
  · rfl
  · rw [hcontext]
    rfl
  · rw [htrace]
    exact (List.append_nil _).symm

/-- Every run counts its turns. -/
theorem counted_transform (h : Highlighter ω γ) (root : NodeId) (s : RunState ω) :
    h.Counted (h.turnsOf root s) s (h.transform root s).2 := by
  obtain ⟨-, hcontext, hquiet⟩ := runHook_frame h s
  cases hook : (h.runHook s).1 with
  | error failure =>
    rw [transform_of_hook_error h root s failure hook, turnsOf, hook]
    exact h.counted_nil s _ hcontext hquiet
  | ok done =>
    by_cases hd : discover s.store root = []
    · rw [transform_of_no_blocks h root s hook hd, turnsOf_of_no_blocks h root s hd]
      exact h.counted_nil s _ hcontext hquiet
    · obtain ⟨-, hcounter, hloads⟩ := loadLanguages_frame h root (h.runHook s).2
      have hturns := turnsOf_of_hook h root s hook
      have took := h.took_processAll (inOrder (discover s.store root))
        (h.loadLanguages root (h.runHook s).2)
      have hlabels := h.map_label_turns (inOrder (discover s.store root))
        (h.loadLanguages root (h.runHook s).2)
      rw [hcontext] at hcounter
      rw [← hturns] at took
      rw [← hturns, hcounter] at hlabels
      constructor
      · exact hlabels
      · rw [transform_of_hook h root s hook hd]
        dsimp only [RunState.note]
        rw [took.counter, hcounter]
      · rw [h.trace_transform root s hook hd, requestsOf_quiet _ _ rfl, requestsOf_append, hloads,
          hquiet, Turn.requestsOf_flatMap]

/-- The blocks that a run processes: none if the hook fails, and otherwise those found, in order. -/
def due (h : Highlighter ω γ) (root : NodeId) (world : ω) (store : Store) :
    List (NodeId × Slot) :=
  match h.hook with
  | none => inOrder (discover store root)
  | some hook =>
    match (hook world).1 with
    | .error _ => []
    | .ok () => inOrder (discover store root)

/-- Each block that a run processes has its turn. -/
theorem map_block_turnsOf_eq_due (h : Highlighter ω γ) (root : NodeId) (s : RunState ω) :
    (h.turnsOf root s).map Turn.block = h.due root s.world s.store := by
  cases hh : h.hook with
  | none =>
    have hook : (h.runHook s).1 = .ok () := by rw [runHook, hh]
    rw [h.map_block_turnsOf root s hook, due, hh]
  | some action =>
    have hresult : (h.runHook s).1 = (action s.world).1 := by
      rw [runHook, hh]
      rfl
    cases hook : (action s.world).1 with
    | error failure =>
      rw [hook] at hresult
      rw [turnsOf, hresult, due, hh]
      dsimp only
      rw [hook, List.map_nil]
    | ok done =>
      rw [hook] at hresult
      rw [h.map_block_turnsOf root s hresult, due, hh]
      dsimp only
      rw [hook]

end Highlighter

/-! ## Runs one after the other -/

/-- A document in a world, and a highlighter for it that renders with the lexers of a registry and
the themes of a gallery. -/
structure Job where
  gallery : Theme.Gallery
  /-- The number of the registry. -/
  registry : Nat
  highlighter : Highlighter Registries Lexer
  renders : highlighter.renderer = Registries.render gallery registry
  world : Registries
  store : Store
  root : NodeId

namespace Rendering

/-- What identifies the elements of the markup; nothing where there is none. -/
def ids (r : Rendering) : List (List Char) :=
  match r.answer with
  | .ok ⟨some markup, _, _⟩ => (Markup.ids? markup.toList).getD []
  | _ => []

/-- The names under which the script registers ranges; none where there is no script. -/
def names (r : Rendering) : List String :=
  match r.answer with
  | .ok ⟨_, _, some script⟩ => (Block.names? script.toList).getD []
  | _ => []

/-- The rendering fails, or it gives a whole bundle that uses the label asked for. -/
inductive UsesLabel (r : Rendering) : Prop where
  | failed (failure : Failure) (answer : r.answer = .error failure)
  | rendered (bundle : Bundle) (lines : Nat) (keys : List String)
      (answer : r.answer = .ok ⟨some bundle.markup, some bundle.style, some bundle.script⟩)
      (uses : bundle.UsesLabel r.request.label lines keys)

/-- What is identified is headed by the label. -/
theorem UsesLabel.headed_ids {r : Rendering} (h : r.UsesLabel) :
    r.ids.Nodup ∧ ∀ id ∈ r.ids, Block.Headed r.request.label id := by
  cases h with
  | failed failure answer =>
    rw [ids, answer]
    exact ⟨List.nodup_nil, nofun⟩
  | rendered bundle lines keys answer uses =>
    obtain ⟨ids, hids, hheaded⟩ := uses.headed_ids
    rw [Rendering.ids, answer]
    dsimp only
    rw [hids]
    exact hheaded

/-- The names of ranges are headed by the label. -/
theorem UsesLabel.headed_names {r : Rendering} (h : r.UsesLabel) :
    r.names.Nodup ∧ ∀ name ∈ r.names, Block.Headed r.request.label name.toList := by
  cases h with
  | failed failure answer =>
    rw [names, answer]
    exact ⟨List.nodup_nil, nofun⟩
  | rendered bundle lines keys answer uses =>
    obtain ⟨names, hnames, hheaded⟩ := uses.headed_names
    rw [Rendering.names, answer]
    dsimp only
    rw [hnames]
    exact hheaded

end Rendering

namespace Job

/-- The state in which a job begins. -/
def start (job : Job) (context : HighlightContext) : RunState Registries where
  world := job.world
  context := context
  store := job.store

/-- The state that a job leaves. -/
def finish (job : Job) (context : HighlightContext) : RunState Registries :=
  (job.highlighter.transform job.root (job.start context)).2

/-- The blocks that a job processes. -/
def blocks (job : Job) : List (NodeId × Slot) :=
  job.highlighter.due job.root job.world job.store

/-- The calls of the renderer in a job. -/
def renderings (job : Job) (context : HighlightContext) : List Rendering :=
  (job.highlighter.turnsOf job.root (job.start context)).map (·.rendering job.highlighter)

/-- The calls of the renderer in jobs one after the other; each begins with the context that the one
before it left. -/
def renderingsOf : List Job → HighlightContext → List Rendering
  | [], _ => []
  | job :: rest, context =>
    job.renderings context ++ renderingsOf rest (job.finish context).context

/-- The context that jobs leave. -/
def contextAfter : List Job → HighlightContext → HighlightContext
  | [], context => context
  | job :: rest, context => contextAfter rest (job.finish context).context

/-- The traces of jobs one after the other. -/
def traceOf : List Job → HighlightContext → List Step
  | [], _ => []
  | job :: rest, context =>
    (job.finish context).trace ++ traceOf rest (job.finish context).context

/-- What jobs do to the counter that they share, told by their calls of the renderer. -/
structure Counted (jobs : List Job) (context : HighlightContext) : Prop where
  /-- The calls take the next labels of the counter. -/
  labels : (renderingsOf jobs context).map (·.request.label) =
    context.counter.minted (renderingsOf jobs context).length
  /-- The counter has gone on by one for each call. -/
  counter : (contextAfter jobs context).counter =
    context.counter.after (renderingsOf jobs context).length
  /-- These are the calls in the traces. -/
  calls : requestsOf (traceOf jobs context) = (renderingsOf jobs context).map Rendering.request

/-- How jobs use the labels of the context that they share. -/
structure Labelled (jobs : List Job) (context : HighlightContext) : Prop
    extends Counted jobs context where
  /-- The renderer is called once for each block, in order. -/
  blocks : (renderingsOf jobs context).map Rendering.block = jobs.flatMap Job.blocks
  /-- A call that does not fail gives a bundle that uses its label. -/
  uses : ∀ r ∈ renderingsOf jobs context, r.UsesLabel
  /-- No two elements are identified alike. -/
  nodup_ids : ((renderingsOf jobs context).flatMap Rendering.ids).Nodup
  /-- No two names of ranges are alike. -/
  nodup_names : ((renderingsOf jobs context).flatMap Rendering.names).Nodup

private theorem map_block_renderings (job : Job) (context : HighlightContext) :
    (job.renderings context).map Rendering.block = job.blocks := by
  have hblocks := job.highlighter.map_block_turnsOf_eq_due job.root (job.start context)
  rw [renderings, List.map_map]
  exact hblocks

/-- The labels of a job follow those of the jobs before it. The induction is on the jobs; the
counter that the first job leaves is where the others begin. -/
theorem counted (jobs : List Job) (context : HighlightContext) : Counted jobs context := by
  induction jobs generalizing context with
  | nil => exact ⟨rfl, rfl, rfl⟩
  | cons job rest ih =>
    have hrest := ih (job.finish context).context
    have hjob := job.highlighter.counted_transform job.root (job.start context)
    have hlength : (job.renderings context).length =
        (job.highlighter.turnsOf job.root (job.start context)).length := List.length_map _
    have hcounter : (job.finish context).context.counter =
        context.counter.after (job.renderings context).length := hlength ▸ hjob.counter
    have hlabels : (job.renderings context).map (·.request.label) =
        context.counter.minted (job.renderings context).length := by
      rw [hlength, renderings, List.map_map]
      exact hjob.labels
    have hcalls : requestsOf (job.finish context).trace =
        (job.renderings context).map Rendering.request := by
      rw [renderings, List.map_map]
      exact hjob.calls
    constructor
    · rw [renderingsOf, List.map_append, List.length_append, LabelCounter.minted_add, hlabels,
        hrest.labels, hcounter]
    · rw [contextAfter, renderingsOf, List.length_append, LabelCounter.after_add, hrest.counter,
        hcounter]
    · rw [traceOf, renderingsOf, requestsOf_append, hcalls, hrest.calls, List.map_append]

/-- The calls are those for the blocks of the jobs. -/
theorem map_block_renderingsOf (jobs : List Job) (context : HighlightContext) :
    (renderingsOf jobs context).map Rendering.block = jobs.flatMap Job.blocks := by
  induction jobs generalizing context with
  | nil => rfl
  | cons job rest ih =>
    rw [renderingsOf, List.map_append, job.map_block_renderings, ih, List.flatMap_cons]

private theorem usesLabel_of_mem (job : Job) (context : HighlightContext) (r : Rendering)
    (h : r ∈ job.renderings context) : r.UsesLabel := by
  obtain ⟨turn, -, rfl⟩ := List.mem_map.mp h
  have hanswer : (turn.rendering job.highlighter).answer =
      (Registries.render job.gallery job.registry (turn.request job.highlighter)
        turn.state.world).1 := by
    rw [Turn.rendering, job.renders]
  rw [Registries.render] at hanswer
  cases hr : Bundle.render (turn.state.world.get job.registry) (turn.request job.highlighter)
      job.gallery with
  | error fault =>
    rw [hr] at hanswer
    exact .failed _ hanswer
  | ok bundle =>
    rw [hr] at hanswer
    obtain ⟨lines, keys, huses⟩ := Bundle.usesLabel_of_render _ _ _ bundle hr
    exact .rendered bundle lines keys hanswer huses

/-- Every call in jobs fails or gives a bundle that uses the label. -/
theorem usesLabel_of_mem_renderingsOf (jobs : List Job) (context : HighlightContext)
    (r : Rendering) (h : r ∈ renderingsOf jobs context) : r.UsesLabel := by
  induction jobs generalizing context with
  | nil => cases h
  | cons job rest ih =>
    rcases List.mem_append.mp h with h | h
    · exact job.usesLabel_of_mem context r h
    · exact ih _ h

/-- Jobs use the labels of any context that they share. -/
theorem labelled (jobs : List Job) (context : HighlightContext) : Labelled jobs context := by
  have hcounted := counted jobs context
  have huses := usesLabel_of_mem_renderingsOf jobs context
  constructor
  · exact hcounted
  · exact map_block_renderingsOf jobs context
  · exact huses
  · exact context.counter.nodup_flatMap_of_headed (renderingsOf jobs context)
      (fun r => r.request.label) Rendering.ids (fun id => id) hcounted.labels
      (fun r hr => (huses r hr).headed_ids.1) (fun r hr => (huses r hr).headed_ids.2)
  · exact context.counter.nodup_flatMap_of_headed (renderingsOf jobs context)
      (fun r => r.request.label) Rendering.names String.toList hcounted.labels
      (fun r hr => (huses r hr).headed_names.1) (fun r hr => (huses r hr).headed_names.2)

/-- Jobs that share a fresh context: the calls of the renderer have the labels with the numbers from
one on, whatever comes of their blocks, and no element and no name of ranges on the page is there
twice. -/
theorem labelled_fresh (jobs : List Job) :
    Labelled jobs {} ∧ ∀ n r, (renderingsOf jobs {})[n]? = some r →
      r.request.label = "hl-" ++ toString (n + 1) := by
  have hlabelled := labelled jobs {}
  refine ⟨hlabelled, ?_⟩
  intro n r hr
  have hn : n < (renderingsOf jobs {}).length := (List.getElem?_eq_some_iff.mp hr).1
  have hlabel := congrArg (·[n]?) hlabelled.labels
  simp only [LabelCounter.minted, List.getElem?_map, hr, Option.map_some] at hlabel
  rw [List.getElem?_range' hn, Option.map_some, Option.some.injEq] at hlabel
  rw [hlabel, LabelCounter.label, Nat.one_mul, Nat.zero_add, Nat.add_comm]
  rfl

/-- A document with two blocks. -/
def pairStore : Store where
  records := #[
    { kind := Node.rootKind, children := some [1, 2] },
    { kind := Node.codeKind, value := some "a", language := some "word" },
    { kind := Node.codeKind, value := some "b\nb", language := some "word" }]

/-- Highlights the two blocks with a theme. -/
def pairJob (theme : String) : Job where
  gallery := .bundled
  registry := 0
  highlighter := {
    theme
    defaults := {}
    hook := none
    supply := Registries.supply 0
    renderer := Registries.render .bundled 0 }
  renders := rfl
  world := .one Bundle.wordRegistry
  store := pairStore
  root := 0

private theorem length_blocks_pairJob (theme : String) : (pairJob theme).blocks.length = 2 := by
  have hdiscover : (Highlighter.discover pairStore 0).length = 2 := by
    rw [Highlighter.discover, Store.visitsOf, Store.visits, Occurrence.visits_eq_preorder]
    decide
  have hsort := (Highlighter.order_inOrder (Highlighter.discover pairStore 0)).perm.length_eq
  rw [hdiscover] at hsort
  exact hsort

private theorem failed_pairJob (context : HighlightContext) (r : Rendering)
    (h : r ∈ (pairJob "nameless").renderings context) :
    r.answer = .error (RenderFault.unknownTheme "nameless").failure := by
  obtain ⟨turn, -, rfl⟩ := List.mem_map.mp h
  rfl

/-- The blocks of a second document have the labels behind those of a first one, whose blocks all
fail. -/
theorem labelled_fresh_two_documents :
    let jobs := [pairJob "nameless", pairJob "monokai"]
    Labelled jobs {} ∧
      (renderingsOf jobs {}).map (·.request.label) = ["hl-1", "hl-2", "hl-3", "hl-4"] ∧
      ∀ r ∈ (pairJob "nameless").renderings {}, ∃ failure, r.answer = .error failure := by
  have h := (labelled_fresh [pairJob "nameless", pairJob "monokai"]).1
  have hlength := congrArg List.length h.blocks
  simp only [List.length_map, List.length_flatMap, List.map_cons, List.map_nil,
    length_blocks_pairJob] at hlength
  have hlabels := h.labels
  rw [hlength] at hlabels
  exact ⟨h, hlabels, fun r hr => ⟨_, failed_pairJob {} r hr⟩⟩

end Job

end CodeHighlight
