import CodeHighlight.Proofs.Highlighter.Sharing

/-!
# A second run

A second run over a copy of a document finds the languages loaded already and registers only what
the hook brings. A block then has the lexer that it had in the first run, unless the hook and the
library bring different lexers for its language: in the first run that of the library comes last, in
the second that of the hook.
-/

namespace CodeHighlight

/-- The bundle of a request depends on the registry by the lexer for the language alone. -/
theorem Bundle.render_congr (r r' : LexerRegistry) (gallery : Theme.Gallery)
    (request : RenderRequest)
    (h : r.lexerFor request.language = r'.lexerFor request.language) :
    Bundle.render r request gallery = Bundle.render r' request gallery := by
  rw [Bundle.render, h, ← Bundle.render]

namespace Sharing

/-- The languages of the blocks of a document, plain text included. -/
def languages (s : Store) (root : NodeId) : List String :=
  (Highlighter.discover s root).map fun block => Language.normalize (s.get block.1).language

/-- What the renderer answers in a world for the blocks of a document, all under one label. -/
def bundles (c : Sharing) (w : Registries) (s : Store) (root : NodeId) (label : String) :
    List (Except Failure Payload) :=
  (Highlighter.inOrder (Highlighter.discover s root)).map fun block =>
    c.answers w (c.highlighter.request (s.get block.1) label)

/-- How a second run over a copy of a document relates to the first. -/
structure Reruns (c : Sharing) (root root' : NodeId) (s again : RunState Registries)
    (first second : Except Failure Unit × RunState Registries) : Prop where
  /-- The first run places what the renderer answers in the world that it leaves. -/
  first_ran : c.highlighter.Ran (c.answers first.2.world) root s first
  /-- So does the second. -/
  second_ran : c.highlighter.Ran (c.answers second.2.world) root' again second
  /-- All blocks have the same lexers exactly if, for each of their languages, the last lexer of the
  hook is the last that the first run took from the library, where there are both. -/
  same_lexers : (∀ l ∈ languages s.store root,
      (first.2.world.get c.id).lexerFor l = (second.2.world.get c.id).lexerFor l) ↔
    ∀ l ∈ languages s.store root, ∀ custom bundled, Registration.last? c.customs l = some custom →
      Registration.last? (c.bundled root s) l = some bundled → custom = bundled
  /-- With the same lexers the bundles are the same up to labels. -/
  same_bundles : (∀ l ∈ languages s.store root,
      (first.2.world.get c.id).lexerFor l = (second.2.world.get c.id).lexerFor l) →
    ∀ label, c.bundles first.2.world s.store root label =
      c.bundles second.2.world again.store root' label

private theorem lexerFor_iff (r : LexerRegistry) (customs bundled : List Registration)
    (l : String) :
    ((r.insertEach customs).insertEach bundled).lexerFor l =
        (((r.insertEach customs).insertEach bundled).insertEach customs).lexerFor l ↔
      ∀ custom bundle, Registration.last? customs l = some custom →
        Registration.last? bundled l = some bundle → custom = bundle := by
  rw [LexerRegistry.lexerFor, LexerRegistry.lexerFor, LexerRegistry.get?_insertEach _ customs,
    LexerRegistry.get?_insertEach _ bundled, LexerRegistry.get?_insertEach _ customs]
  cases Registration.last? customs l with
  | none => simp
  | some custom =>
    cases Registration.last? bundled l with
    | none => simp
    | some bundle => simp [eq_comm]

/-- Structurally equal documents get the same bundles in one world. -/
theorem bundles_copy (c : Sharing) (w : Registries) (s copy : Store) (root root' : NodeId)
    (label : String) (same : copy.tree root' = s.tree root) :
    c.bundles w copy root' label = c.bundles w s root label := by
  have viewed (s : Store) (root : NodeId) : c.bundles w s root label =
      ((Highlighter.inOrder (Highlighter.discover s root)).map (Highlighter.view s)).map
        fun e => c.answers w (c.highlighter.request e.2 label) := by
    rw [bundles, List.map_map]
    apply List.map_congr_left
    intro block _
    exact congrArg (c.answers w) (Highlighter.request_congr _ _ _ label rfl)
  rw [viewed, viewed, Highlighter.map_view_inOrder s copy root root' same]

/-- Where all blocks have the same lexers the bundles are the same. -/
theorem bundles_congr (c : Sharing) (w w' : Registries) (s : Store) (root : NodeId) (label : String)
    (h : ∀ l ∈ languages s root, (w.get c.id).lexerFor l = (w'.get c.id).lexerFor l) :
    c.bundles w s root label = c.bundles w' s root label := by
  apply List.map_congr_left
  intro block hblock
  have hmem : block ∈ Highlighter.discover s root :=
    (Highlighter.order_inOrder _).perm.mem_iff.mp hblock
  have hlexer := h _ (List.mem_map_of_mem hmem)
  have hlanguage : (c.highlighter.request (s.get block.1) label).language =
      Language.normalize (s.get block.1).language := by rw [Highlighter.request]
  rw [← hlanguage] at hlexer
  rw [answers, answers, Registries.render, Registries.render, Bundle.render_congr _ _ _ _ hlexer]
  split <;> rfl

/-- A second run over a structurally equal document gives the bundles of the first up to labels
exactly as far as the hook and the library do not bring different lexers for a language. -/
theorem reruns (c : Sharing) (root root' : NodeId) (s : RunState Registries) (copy : Store)
    (same : copy.tree root' = s.store.tree root)
    (passes : (c.highlighter.runHook s).1 = .ok ()) :
    let first := c.highlighter.transform root s
    let again := first.2.over copy
    c.Reruns root root' s again first (c.highlighter.transform root' again) := by
  intro first again
  have passes' := c.passes_again s again passes
  constructor
  · exact c.ran_transform root s passes
  · exact c.ran_transform root' again passes'
  · by_cases hd : Highlighter.discover s.store root = []
    · simp [languages, hd]
    · rw [c.registry_again root root' s copy same passes hd, c.registry_transform root s passes hd]
      exact forall_congr' fun l => forall_congr' fun _ => lexerFor_iff _ _ _ l
  · intro hlexers label
    rw [c.bundles_congr _ _ s.store root label hlexers]
    exact (c.bundles_copy _ s.store copy root root' label same).symm

/-- A lexer for Python that reads nothing. -/
def refusing : Lexer where
  ident := "RefusingLexer"
  title := "Refusing"
  aliases := ["python"]
  tokens := fun _ => .error (.plain .badValue "refused")

/-- The lexers that the library brings, and a hook that registers the refusing lexer. -/
def refusingHook (aliases : List String) : Sharing where
  id := 0
  find := Lexer.bundled?
  declared := by
    intro language lexer h
    have hcontains := List.find?_some h
    simpa using hcontains
  hook := some [(refusing, aliases)]
  theme := "monokai"

/-- A document with one Python block. -/
def onePython : Store where
  records := #[
    { kind := Node.rootKind, children := some [1] },
    { kind := Node.codeKind, value := some "x", language := some "python" }]

/-- The state before the first run over that document. -/
def fresh : RunState Registries where
  world := {}
  context := {}
  store := onePython

/-- A hook that registers its lexer under an alias of its own. -/
theorem reruns_onePython :
    let first := (refusingHook ["ada"]).highlighter.transform 0 fresh
    let again := first.2.over onePython
    (refusingHook ["ada"]).Reruns 0 0 fresh again first
      ((refusingHook ["ada"]).highlighter.transform 0 again) :=
  reruns (refusingHook ["ada"]) 0 0 fresh onePython rfl rfl

private theorem discover_onePython : Highlighter.discover onePython 0 = [(1, ⟨0, 0⟩)] := by
  rw [Highlighter.discover, Store.visitsOf, Store.visits, Occurrence.visits_eq_preorder]
  decide +kernel

private theorem collect_onePython : Language.collect onePython 0 = ["python"] := by
  rw [Language.collect, Store.visitsOf, Store.visits, Occurrence.visits_eq_preorder]
  decide +kernel

private theorem passes_refusing (s : RunState Registries) :
    ((refusingHook []).highlighter.runHook s).1 = .ok () := rfl

private theorem refusingHook_id : (refusingHook []).id = 0 := rfl

private theorem normalize_python : Language.normalize (some "python") = "python" := by
  decide +kernel

private theorem customs_refusing :
    Registration.last? (refusingHook []).customs "python" = some refusing := rfl

private theorem bundled_refusing :
    Registration.last? ((refusingHook []).bundled 0 fresh) "python" = some Lexer.python := by
  have hfind : (refusingHook []).find "python" = some Lexer.python := by rfl
  have hcollect : Language.collect fresh.store 0 = ["python"] := collect_onePython
  have hnew : fresh.context.languages.isLoaded (.registry (refusingHook []).id) "python" = false :=
    rfl
  rw [bundled, hcollect, Registries.missing, List.filter_cons_of_pos (by rw [hnew]; rfl),
    List.filter_nil, List.filterMap_cons_some (by rw [hfind, Option.map_some]), List.filterMap_nil]
  rfl

/-- The first run with a hook for Python. -/
def firstRefused : Except Failure Unit × RunState Registries :=
  (refusingHook []).highlighter.transform 0 fresh

/-- The state before the second run with a hook for Python. -/
def againRefused : RunState Registries := firstRefused.2.over onePython

/-- The second run with a hook for Python. -/
def secondRefused : Except Failure Unit × RunState Registries :=
  (refusingHook []).highlighter.transform 0 againRefused

private theorem lexers_refused :
    (firstRefused.2.world.get 0).lexerFor "python" = Lexer.python ∧
      (secondRefused.2.world.get 0).lexerFor "python" = refusing := by
  have hd : Highlighter.discover onePython 0 ≠ [] := by
    rw [discover_onePython]
    exact List.cons_ne_nil _ _
  have hfirst := (refusingHook []).registry_transform 0 fresh (passes_refusing fresh) hd
  have hsecond :=
    (refusingHook []).registry_again 0 0 fresh onePython rfl (passes_refusing fresh) hd
  rw [← firstRefused, refusingHook_id] at hfirst hsecond
  constructor
  · have hget : (firstRefused.2.world.get 0).get? "python" = some Lexer.python := by
      rw [hfirst, LexerRegistry.get?_insertEach, bundled_refusing, Option.some_or]
    rw [LexerRegistry.lexerFor, hget, Option.getD_some]
  · have hget : (secondRefused.2.world.get 0).get? "python" = some refusing := by
      rw [secondRefused, againRefused, hsecond, LexerRegistry.get?_insertEach, customs_refusing,
        Option.some_or]
    rw [LexerRegistry.lexerFor, hget, Option.getD_some]

private theorem bundles_onePython (w : Registries) (label : String) :
    (refusingHook []).bundles w onePython 0 label = [(refusingHook []).answers w
      ((refusingHook []).highlighter.request (onePython.get 1) label)] := by
  rw [bundles, discover_onePython, Highlighter.inOrder, List.mergeSort_singleton,
    List.map_singleton]

private theorem refusing_tokens (source : List Char) :
    refusing.tokens source = .error (.plain .badValue "refused") := rfl

private theorem answers_ne (w w' : Registries) (label : String)
    (hw : (w.get 0).lexerFor "python" = Lexer.python)
    (hw' : (w'.get 0).lexerFor "python" = refusing) :
    let request := (refusingHook []).highlighter.request (onePython.get 1) label
    (refusingHook []).answers w request ≠ (refusingHook []).answers w' request := by
  intro request
  have hlanguage : request.language = "python" := normalize_python
  have htheme : (refusingHook []).gallery.find? request.theme = some .monokai := by
    change Theme.listed.lookup "monokai" = _
    rw [Theme.listed, List.lookup_cons_self]
  obtain ⟨tokens, htokens⟩ : ∃ tokens,
      Lexer.python.tokens (CodeLine.normalize request.code.toList) = .ok tokens := ⟨_, rfl⟩
  have hrefused := refusing_tokens (CodeLine.normalize request.code.toList)
  simp only [answers, Registries.render, refusingHook_id, Bundle.render, htheme, hlanguage, hw,
    hw', htokens, hrefused]
  cases Bundle.ofRanges .monokai request.label "python"
      (CodeLine.normalize request.code.toList) request.directives (.ofTokens tokens) with
  | ok bundle =>
    intro he
    cases he
  | error fault =>
    intro he
    have hfailure : (RenderFault.numeral fault).failure =
        (RenderFault.unreadable "python" (.plain .badValue "refused")).failure :=
      Except.error.inj he
    simp [RenderFault.failure, Failure.plain, Failure.because] at hfailure

/-- A hook that registers a lexer for Python: the first run takes the lexer of the library, the
second that of the hook, and the bundles differ under every label. -/
theorem reruns_refused :
    firstRefused.1 = .ok () ∧ secondRefused.1 = .ok () ∧ languages onePython 0 = ["python"] ∧
      (firstRefused.2.world.get 0).lexerFor "python" = Lexer.python ∧
      (secondRefused.2.world.get 0).lexerFor "python" = refusing ∧
      ∀ label, (refusingHook []).bundles firstRefused.2.world onePython 0 label ≠
        (refusingHook []).bundles secondRefused.2.world onePython 0 label := by
  obtain ⟨hfirst, hsecond⟩ := lexers_refused
  refine ⟨?_, ?_, ?_, hfirst, hsecond, ?_⟩
  · exact ((refusingHook []).ran_transform 0 fresh (passes_refusing fresh)).ok
  · exact ((refusingHook []).ran_transform 0 againRefused (passes_refusing againRefused)).ok
  · rw [languages, discover_onePython, List.map_singleton]
    exact congrArg (fun l => [l]) normalize_python
  · intro label
    rw [bundles_onePython, bundles_onePython]
    intro he
    exact answers_ne _ _ label hfirst hsecond (List.singleton_inj.mp he)

end Sharing

end CodeHighlight
