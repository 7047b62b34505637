import CodeHighlight.Proofs.Document.Tree
import CodeHighlight.Proofs.Highlighter.Blocks
import CodeHighlight.Proofs.Highlighter.Run
import CodeHighlight.Proofs.Text.FirstLine

/-!
# Highlighting a tree

A run over a tree is the recursive map that exchanges every code block with a complete bundle for
the three parts of that bundle. The bundle of a block is the answer to its own request, whatever
becomes of the other blocks.
-/

namespace CodeHighlight

/-! ## What a block asks for -/

namespace Directives

/-- A directive is the block's own where it has one, and the default where it has none. -/
def IsTaken {α : Type} (own default taken : Option α) : Prop :=
  (∀ value, own = some value → taken = some value) ∧ (own = none → taken = default)

/-- Each directive of `merged` is taken by itself. -/
structure MergedOver (own defaults merged : Directives) : Prop where
  highlighted : IsTaken own.highlighted defaults.highlighted merged.highlighted
  numbering : IsTaken own.numbering defaults.numbering merged.numbering
  diff : IsTaken own.diff defaults.diff merged.diff
  focus : IsTaken own.focus defaults.focus merged.focus

private theorem isTaken_or {α : Type} (own default : Option α) :
    IsTaken own default (own.or default) := by
  constructor
  · rintro value rfl
    rfl
  · rintro rfl
    rfl

/-- Absent directives come from the defaults, one by one. -/
theorem mergedOver_withDefaults (d defaults : Directives) :
    d.MergedOver defaults (d.withDefaults defaults) where
  highlighted := isTaken_or _ _
  numbering := isTaken_or _ _
  diff := isTaken_or _ _
  focus := isTaken_or _ _

end Directives

namespace Language

/-- The language of a tag is what stands between the blanks around it, or plain text where nothing
does. -/
def StandsFor (tag : Option String) (language : String) : Prop :=
  ∃ left core right, (tag.getD "").toList = left ++ core ++ right ∧
    (∀ c ∈ left, Text.isBlank c = true) ∧ (∀ c ∈ right, Text.isBlank c = true) ∧
    (∀ c, core.head? = some c → Text.isBlank c = false) ∧
    (∀ c, core.getLast? = some c → Text.isBlank c = false) ∧
    language = if core = [] then "text" else String.ofList core

/-- A block is highlighted in the language of its tag. -/
theorem standsFor_normalize (tag : Option String) : StandsFor tag (normalize tag) := by
  obtain ⟨left, right, hleft, hright, htag⟩ := Text.exists_trim (tag.getD "").toList
  refine ⟨left, _, right, htag, hleft, hright, Text.isBlank_of_head?_trim _,
    Text.isBlank_of_getLast?_trim _, ?_⟩
  simp only [normalize, Text.trimmed, String.ofList_eq_empty_iff, plainText]

end Language

namespace Highlighter

variable {ω γ : Type}

/-- What the request for a block holds. -/
structure Asks (h : Highlighter ω γ) (block : NodeRecord) (label : String)
    (request : RenderRequest) : Prop where
  /-- A block without a value is empty code. -/
  code : request.code = block.value.getD ""
  language : Language.StandsFor block.language request.language
  theme : request.theme = h.theme
  label : request.label = label
  /-- The directives are read from the info of the block, over the defaults. -/
  directives : (Directives.ofMeta block.info).MergedOver h.defaults request.directives

private theorem asks_requestAt (h : Highlighter ω γ) (s : Store) (counter : LabelCounter) (j : Nat)
    (block : NodeId × Slot) :
    h.Asks (s.get block.1) (counter.stem ++ "-" ++ toString (counter.value + (j + 1)))
      (h.requestAt s counter j block) := by
  rw [requestAt]
  constructor
  case code | theme | label => rfl
  case language =>
    -- Without this step the two languages are compared by evaluating them.
    dsimp only
    exact Language.standsFor_normalize _
  case directives => exact Directives.mergedOver_withDefaults _ _

/-! ## Runs -/

/-- The hook changes the world alone. -/
theorem runHook_frame (h : Highlighter ω γ) (s : RunState ω) :
    (h.runHook s).2.store = s.store ∧ (h.runHook s).2.context = s.context ∧
      requestsOf (h.runHook s).2.trace = requestsOf s.trace := by
  rw [runHook]
  cases h.hook with
  | none => exact ⟨rfl, rfl, rfl⟩
  | some hook => exact ⟨rfl, rfl, requestsOf_quiet s.trace .hook rfl⟩

/-- Loading languages changes neither the store nor the counter and calls no renderer. -/
theorem loadLanguages_frame (h : Highlighter ω γ) (root : NodeId) (s : RunState ω) :
    (h.loadLanguages root s).store = s.store ∧
      (h.loadLanguages root s).context.counter = s.context.counter ∧
      requestsOf (h.loadLanguages root s).trace = requestsOf s.trace :=
  ⟨rfl, rfl, LoadState.requestsOf_load h.supply _ _⟩

/-- A run whose hook passes loads the languages and processes the blocks in order. -/
theorem transform_of_hook (h : Highlighter ω γ) (root : NodeId) (s : RunState ω)
    (hook : (h.runHook s).1 = .ok ()) (hd : discover s.store root ≠ []) :
    h.transform root s =
      let loaded := h.loadLanguages root (h.runHook s).2
      let done := h.processAll (inOrder (discover s.store root)) loaded
      (.ok (), done.2.note (.report (.blocksHighlighted done.1.1 done.1.2))) := by
  have hstore := (runHook_frame h s).1
  cases hr : h.runHook s with
  | mk result t =>
    rw [hr] at hook hstore
    cases hook
    rw [← hstore] at hd ⊢
    rw [transform, hr]
    dsimp only
    split
    · contradiction
    · rfl

/-- A run whose hook passes does no more where there are no blocks. -/
theorem transform_of_no_blocks (h : Highlighter ω γ) (root : NodeId) (s : RunState ω)
    (hook : (h.runHook s).1 = .ok ()) (hd : discover s.store root = []) :
    h.transform root s = (.ok (), (h.runHook s).2) := by
  have hstore := (runHook_frame h s).1
  cases hr : h.runHook s with
  | mk result t =>
    rw [hr] at hook hstore
    cases hook
    rw [← hstore] at hd
    rw [transform, hr]
    dsimp only
    rw [hd]

/-- A run whose hook fails ends there. -/
theorem transform_of_hook_error (h : Highlighter ω γ) (root : NodeId) (s : RunState ω)
    (failure : Failure) (hook : (h.runHook s).1 = .error failure) :
    h.transform root s = (.error failure, (h.runHook s).2) := by
  cases hr : h.runHook s with
  | mk result t =>
    rw [hr] at hook
    rw [transform, hr]
    dsimp only at hook ⊢
    rw [hook]

/-- What becomes of the blocks once the languages are loaded. -/
theorem processedAll_loaded (h : Highlighter ω γ) (inv : ω → Prop)
    (answer : RenderRequest → Except Failure Payload) (ha : h.Answers inv answer) (root : NodeId)
    (s : RunState ω) (hw : inv (h.loadLanguages root (h.runHook s).2).world) :
    h.ProcessedAll inv answer s.store (inOrder (discover s.store root))
      (h.loadLanguages root (h.runHook s).2)
      (h.processAll (inOrder (discover s.store root))
        (h.loadLanguages root (h.runHook s).2)).2 := by
  have hstore := (loadLanguages_frame h root (h.runHook s).2).1.trans (runHook_frame h s).1
  apply processedAll_processAll h inv answer ha s.store _ _ hw
  · exact Nat.le_of_eq (by rw [hstore])
  · intro block hb
    exact lt_size_of_mem_discover _ root block ((order_inOrder _).perm.mem_iff.mp hb)
  · intro n _
    rw [hstore]

/-- What a run leaves of the store, the counter and the trace, told by what the renderer answers. -/
structure Ran (h : Highlighter ω γ) (answer : RenderRequest → Except Failure Payload)
    (root : NodeId) (s : RunState ω) (result : Except Failure Unit × RunState ω) : Prop where
  ok : result.1 = .ok ()
  store : result.2.store = s.store.placeAll
    (h.outcomes answer s.store s.context.counter (inOrder (discover s.store root)))
  counter : result.2.context.counter =
    s.context.counter.after (inOrder (discover s.store root)).length
  requests : requestsOf result.2.trace = requestsOf s.trace ++
    h.requests s.store s.context.counter (inOrder (discover s.store root))

/-- A run places what the renderer answers to the requests of the blocks, which come in order and
with consecutive labels. -/
theorem ran_transform (h : Highlighter ω γ) (inv : ω → Prop)
    (answer : RenderRequest → Except Failure Payload) (ha : h.Answers inv answer) (root : NodeId)
    (s : RunState ω) (hook : (h.runHook s).1 = .ok ())
    (hw : discover s.store root ≠ [] → inv (h.loadLanguages root (h.runHook s).2).world) :
    h.Ran answer root s (h.transform root s) := by
  obtain ⟨hstore, hcontext, htrace⟩ := runHook_frame h s
  by_cases hd : discover s.store root = []
  · rw [transform_of_no_blocks h root s hook hd]
    have hnone : inOrder (discover s.store root) = [] := by
      rw [hd]
      exact List.mergeSort_nil
    constructor
    · rfl
    · rw [hnone]
      exact hstore
    · rw [hnone]
      exact congrArg HighlightContext.counter hcontext
    · rw [hnone, htrace]
      exact (List.append_nil _).symm
  · obtain ⟨hstore', hcounter', htrace'⟩ := loadLanguages_frame h root (h.runHook s).2
    rw [hstore] at hstore'
    rw [hcontext] at hcounter'
    rw [htrace] at htrace'
    have hall := processedAll_loaded h inv answer ha root s (hw hd)
    rw [transform_of_hook h root s hook hd]
    dsimp only [RunState.note]
    constructor
    · rfl
    · rw [hall.store, hstore', hcounter']
    · rw [hall.counter, hcounter']
    · rw [requestsOf_quiet _ _ rfl, hall.requests, htrace', hcounter']

/-- What a run makes of a tree, told by the bundle of each slot: the parts for the block there. -/
structure Highlights (h : Highlighter ω γ) (answer : RenderRequest → Except Failure Payload)
    (root : NodeId) (s t : RunState ω) (blocks : List (NodeId × Slot))
    (bundle : Slot → Option (List String)) : Prop where
  /-- The blocks are the code objects that stand in a slot. -/
  found : ∀ block, block ∈ blocks ↔
    ⟨block.1, some block.2⟩ ∈ s.store.visits root ∧ (s.store.get block.1).kind = Node.codeKind
  /-- Their order is by descending index, and for one index that of the document. -/
  order : Order (discover s.store root) blocks
  /-- The renderer is asked once for each block, in this order and with consecutive labels. -/
  requests : requestsOf t.trace = requestsOf s.trace ++
    blocks.mapIdx (h.requestAt s.store s.context.counter)
  /-- Each of them holds what stands in its block, and the label with the next number. -/
  asks : ∀ j block, blocks[j]? = some block →
    h.Asks (s.store.get block.1)
      (s.context.counter.stem ++ "-" ++ toString (s.context.counter.value + (j + 1)))
      (h.requestAt s.store s.context.counter j block)
  /-- The bundle of a block is the answer to its own request. -/
  bundle_block : ∀ j block, blocks[j]? = some block →
    bundle block.2 = answerParts? (answer (h.requestAt s.store s.context.counter j block))
  /-- Where no block stands there is no bundle. -/
  bundle_other : ∀ slot, slot ∉ blocks.map Prod.snd → bundle slot = none
  /-- The tree is the map of the old one that exchanges the slots with a bundle. -/
  tree : t.store.tree root = (s.store.unfold root).rewrite s.store bundle
  /-- Every object of the old tree keeps its fields and, slots with a bundle apart, its children;
  those slots hold fresh objects. -/
  objects : ∃ done : Replaced, (∀ slot, done.texts? slot = bundle slot) ∧
    s.store.Rewritten done t.store
  /-- One label is used for each block. -/
  counter : t.context.counter = s.context.counter.after blocks.length

/-- Outcomes in the order of processing replace each slot by the first parts for it, with objects
that stand nowhere else. -/
theorem rewritten_apart_placeAll (s : Store) (root : NodeId)
    (outcomes : List Outcome) (hm : outcomes.map Prod.fst = inOrder (discover s root))
    (hp : ∀ o ∈ outcomes, o.2 ≠ some []) :
    ∃ done : Replaced, s.Rewritten done (s.placeAll outcomes) ∧
      (∀ slot, done.texts? slot = Store.firstParts outcomes slot) ∧ done.Apart := by
  have order := order_inOrder (discover s root)
  have hstands : ∀ o ∈ outcomes, s.Stands o.1 := by
    intro o ho
    apply stands_of_mem_discover s root
    rw [← order.perm.mem_iff, ← hm]
    exact List.mem_map_of_mem ho
  have hdesc : outcomes.Pairwise fun a b => b.1.2.index ≤ a.1.2.index := by
    have hsorted := order.descending
    rwa [← hm, List.pairwise_map] at hsorted
  obtain ⟨done, hdone, htexts, hapart⟩ := Store.Rewritten.placeAll s s (fun _ => none) outcomes
    s.rewritten_refl hstands hdesc (fun _ _ _ _ => rfl) hp ⟨nofun, nofun⟩
  refine ⟨done, hdone, ?_, hapart⟩
  intro slot
  rw [htexts slot]
  rfl

/-- Outcomes in the order of processing replace each slot by the first parts for it. -/
theorem rewritten_placeAll (s : Store) (root : NodeId)
    (outcomes : List Outcome) (hm : outcomes.map Prod.fst = inOrder (discover s root))
    (hp : ∀ o ∈ outcomes, o.2 ≠ some []) :
    ∃ done : Replaced, s.Rewritten done (s.placeAll outcomes) ∧
      ∀ slot, done.texts? slot = Store.firstParts outcomes slot := by
  obtain ⟨done, hdone, htexts, -⟩ := rewritten_apart_placeAll s root outcomes hm hp
  exact ⟨done, hdone, htexts⟩

/-- A run over a tree with a passing hook and a renderer that answers by its arguments alone is the
recursive map of the tree that exchanges each code block with a complete bundle for its three
parts. -/
theorem transform_highlights (h : Highlighter ω γ)
    (answer : RenderRequest → Except Failure Payload)
    (pure : ∀ request w, (h.renderer request w).1 = answer request) (root : NodeId)
    (s : RunState ω) (tree : s.store.IsTree root) (hook : (h.runHook s).1 = .ok ()) :
    (h.transform root s).1 = .ok () ∧
      ∃ bundle, h.Highlights answer root s (h.transform root s).2
        (inOrder (discover s.store root)) bundle := by
  have order := order_inOrder (discover s.store root)
  have ran := ran_transform h (fun _ => True) answer (fun request w _ => ⟨pure request w, trivial⟩)
    root s hook (fun _ => trivial)
  have hmap := map_fst_outcomes h answer s.store s.context.counter
    (inOrder (discover s.store root))
  have hslots : ((h.outcomes answer s.store s.context.counter
      (inOrder (discover s.store root))).map fun o => o.1.2) =
      (inOrder (discover s.store root)).map Prod.snd := by
    rw [← congrArg (List.map Prod.snd) hmap, List.map_map]
    rfl
  have hnodup : ((inOrder (discover s.store root)).map Prod.snd).Nodup :=
    (order.perm.map Prod.snd).nodup_iff.mpr (discover_slots_nodup s.store root tree)
  obtain ⟨done, hdone, htexts⟩ := rewritten_placeAll s.store root _ hmap
    (ne_of_mem_outcomes h answer s.store s.context.counter _)
  rw [← ran.store] at hdone
  refine ⟨ran.ok, done.texts?, ?_⟩
  constructor
  case found =>
    intro block
    rw [order.perm.mem_iff, mem_discover]
  case order => exact order
  case requests => exact ran.requests
  case asks => exact fun j block _ => h.asks_requestAt s.store s.context.counter j block
  case bundle_block =>
    intro j block hj
    have hget := getElem?_outcomes h answer s.store s.context.counter _ j block hj
    rw [htexts, Store.firstParts_of_mem _ _ (List.mem_of_getElem? hget) (hslots ▸ hnodup)]
  case bundle_other =>
    intro slot hslot
    rw [htexts, Store.firstParts_of_not_mem _ _ (hslots ▸ hslot)]
  case tree => exact Store.Rewritten.tree _ _ done hdone root tree
  case objects => exact ⟨done, fun _ => rfl, hdone⟩
  case counter => exact ran.counter

/-- A document in which a code block holds another one and stands before a third. -/
def nestedStore : Store where
  records := #[
    { kind := Node.rootKind, children := some [1, 3] },
    { kind := Node.codeKind, value := some "outer", children := some [2] },
    { kind := Node.codeKind, value := some "inner" },
    { kind := Node.codeKind, value := some "last", language := some "python" }]

/-- Renders a block as its code and its label, but not the outer block. -/
def pickyAnswer (request : RenderRequest) : Except Failure Payload :=
  if request.code = "outer" then .error (.plain .render "no outer blocks")
  else .ok ⟨some request.code, some "", some request.label⟩

/-- A highlighter that renders as `pickyAnswer` does, without a hook and without grammars. -/
def pickyHighlighter : Highlighter Unit Unit where
  theme := "github-dark"
  defaults := {}
  hook := none
  supply := ⟨.unnamed, fun _ w => (.ok none, w), fun _ w => (.ok (), w)⟩
  renderer := fun request w => (pickyAnswer request, w)

/-- The nested document is a tree. -/
theorem isTree_nestedStore : nestedStore.IsTree 0 := by
  constructor
  · rw [Store.visits, Occurrence.visits_eq_preorder]
    decide
  · rw [Store.visits, Occurrence.visits_eq_preorder]
    decide

/-- A run over the nested document keeps the outer block and maps the two others. -/
theorem transform_nested_highlights :
    let s : RunState Unit := { world := (), context := {}, store := nestedStore }
    (pickyHighlighter.transform 0 s).1 = .ok () ∧
      ∃ bundle, pickyHighlighter.Highlights pickyAnswer 0 s (pickyHighlighter.transform 0 s).2
        (inOrder (discover nestedStore 0)) bundle :=
  transform_highlights pickyHighlighter pickyAnswer (fun _ _ => rfl) 0 _ isTree_nestedStore rfl

end Highlighter

end CodeHighlight
