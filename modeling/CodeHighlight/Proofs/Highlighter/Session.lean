import CodeHighlight.Proofs.Highlighter.Actions
import CodeHighlight.Proofs.Highlighter.Sharing
import CodeHighlight.Proofs.Text.Case
import Mathlib.Logic.Function.Basic

/-!
# Sessions

Runs of several highlighters share one context and bring lexers into several registries, in any
order and also action by action in turns. Registries and the memory only grow, and a language is
recorded for a registry only once a lexer stands there under it. So a language that is recorded has
a lexer ever after, and a run that renders has lexers for all languages that its library knows.
-/

namespace CodeHighlight

namespace Registries

private theorem get_put_of_ne (w : Registries) (id other : Nat) (r : LexerRegistry)
    (h : other ≠ id) : (w.put id r).get other = w.get other := by
  rw [get, put, List.lookup_cons, beq_false_of_ne h, get]

/-- Every registry holds what it held and what was registered since. -/
def Grows (w w' : Registries) : Prop := ∀ id, ∃ rs, w'.get id = (w.get id).insertEach rs

/-- Nothing may have been registered. -/
theorem grows_refl (w : Registries) : w.Grows w := fun _ => ⟨[], rfl⟩

/-- Registrations in one registry leave the others as they are. -/
theorem grows_put (w : Registries) (id : Nat) (rs : List Registration) :
    w.Grows (w.put id ((w.get id).insertEach rs)) := by
  intro other
  by_cases h : other = id
  · subst other
    exact ⟨rs, w.get_put id _⟩
  · exact ⟨[], w.get_put_of_ne id other _ h⟩

/-- A name with a lexer keeps having one. -/
theorem Grows.isSome_get? (w w' : Registries) (h : w.Grows w') (id : Nat) (name : String)
    (hn : ((w.get id).get? name).isSome) : ((w'.get id).get? name).isSome := by
  obtain ⟨rs, hrs⟩ := h id
  rw [hrs, LexerRegistry.get?_insertEach, Option.isSome_or, hn, Bool.or_true]

/-- A hook that registers lexers lets the registries grow. -/
theorem grows_registerEach (id : Nat) (calls : List (Lexer × List String)) (w : Registries) :
    w.Grows (registerEach id calls w).2 := by
  obtain ⟨rs, hrs⟩ := (w.get id).exists_insertEach_registerEach calls
  rw [registerEach_eq]
  dsimp only
  rw [hrs]
  exact w.grows_put id rs

end Registries

private theorem LexerRegistry.isSome_get?_insertAll (r : LexerRegistry) (lexer : Lexer)
    (name : String) (h : Text.lowered name ∈ lexer.aliases) :
    ((r.insertAll lexer lexer.aliases).get? name).isSome := by
  have hcovers : Registration.covers (lexer, lexer.aliases) name = true := by
    rw [Registration.covers, List.contains_iff_mem, List.mem_map]
    exact ⟨Text.lowered name, h, Text.lowered_lowered name⟩
  rw [get?_insertAll, if_pos hcovers, Option.isSome_some]

namespace LoadState

/-- What an attempt to load a language from a library leaves: the registries have grown, and the
language is unknown or has a lexer. -/
structure Attempted (id : Nat) (find : String → Option Lexer) (language : String)
    (s : LoadState Registries) (result : Except Failure Bool × LoadState Registries) : Prop where
  grows : s.world.Grows result.2.world
  cache : result.2.cache = s.cache
  outcome : result.1 = .ok false ∧ find language = none ∨
    result.1 = .ok true ∧ ((result.2.world.get id).get? language).isSome

/-- An attempt never fails where lexers declare the names that they are found for. -/
theorem attempted_supplyFrom (id : Nat) (find : String → Option Lexer) (language : String)
    (s : LoadState Registries)
    (declared : ∀ lexer, find language = some lexer → Text.lowered language ∈ lexer.aliases) :
    Attempted id find language s (s.attempt (Registries.supplyFrom id find) language) := by
  cases hf : find language with
  | none =>
    simp only [attempt, Registries.supplyFrom, hf, note]
    exact ⟨s.world.grows_refl, rfl, .inl ⟨rfl, hf⟩⟩
  | some lexer =>
    have hmem := declared lexer hf
    have hregister (w : Registries) : Registries.register id lexer w =
        (.ok (), w.put id ((w.get id).insertAll lexer lexer.aliases)) := by
      rw [Registries.register, LexerRegistry.register_of_names _ _ _
        (lexer.effectiveNames_ne_nil _ hmem), lexer.effectiveNames_nil _ hmem]
    simp only [attempt, Registries.supplyFrom, hf, hregister, note]
    refine ⟨s.world.grows_put id [(lexer, lexer.aliases)], rfl, .inr ⟨rfl, ?_⟩⟩
    rw [Registries.get_put]
    exact LexerRegistry.isSome_get?_insertAll _ lexer language hmem

namespace Attempted

variable {id : Nat} {find : String → Option Lexer} {language : String} {s : LoadState Registries}
  {result : Except Failure Bool × LoadState Registries}

/-- An attempt does not fail. -/
theorem ne_error (h : Attempted id find language s result) (failure : Failure) :
    result.1 ≠ .error failure := by
  intro he
  rcases h.outcome with ⟨hfalse, -⟩ | ⟨htrue, -⟩
  · exact nomatch hfalse.symm.trans he
  · exact nomatch htrue.symm.trans he

/-- A language that nothing was registered for is unknown. -/
theorem unknown (h : Attempted id find language s result) (hr : result.1 = .ok false) :
    find language = none := by
  rcases h.outcome with ⟨-, hnone⟩ | ⟨htrue, -⟩
  · exact hnone
  · exact nomatch htrue.symm.trans hr

/-- A language that something was registered for has a lexer. -/
theorem registered (h : Attempted id find language s result) (hr : result.1 = .ok true) :
    ((result.2.world.get id).get? language).isSome := by
  rcases h.outcome with ⟨hfalse, -⟩ | ⟨-, hsome⟩
  · exact nomatch hfalse.symm.trans hr
  · exact hsome

end Attempted

end LoadState

namespace RunState

/-- What runs share only grows. -/
structure Onward (s t : RunState Registries) : Prop where
  grows : s.world.Grows t.world
  loaded : ∀ scope l, s.context.languages.isLoaded scope l = true →
    t.context.languages.isLoaded scope l = true

/-- Every language recorded for a registry has a lexer there. -/
def Sound (s : RunState Registries) : Prop :=
  ∀ id l, s.context.languages.isLoaded (.registry id) l = true →
    ((s.world.get id).get? l).isSome

/-- Where the registries grow and the memory stays, what is recorded has its lexer. -/
theorem Sound.of_grows (s t : RunState Registries) (h : s.Sound) (hg : s.world.Grows t.world)
    (hc : t.context.languages = s.context.languages) : t.Sound := by
  intro id l hl
  rw [hc] at hl
  exact hg.isSome_get? _ _ id l (h id l hl)

end RunState

/-- A highlighter whose supplier brings the lexers of a library into a registry. Its hook and its
renderer may register further lexers, in any registry. -/
structure Member where
  /-- The number of the registry. -/
  id : Nat
  /-- The lexer that the library has for a language. -/
  find : String → Option Lexer
  /-- A lexer of the library declares the languages that it is found for in small letters. -/
  declared : ∀ language lexer, find language = some lexer → Text.lowered language ∈ lexer.aliases
  highlighter : Highlighter Registries Lexer
  supply : highlighter.supply = Registries.supplyFrom id find
  hook_grows : ∀ hook, highlighter.hook = some hook → ∀ w : Registries, w.Grows (hook w).2
  renderer_grows : ∀ request (w : Registries), w.Grows (highlighter.renderer request w).2

namespace Member

/-- The language is recorded for the registry of the member, or its library does not know it. -/
def Settled (m : Member) (s : RunState Registries) (l : String) : Prop :=
  s.context.languages.isLoaded (.registry m.id) l = true ∨ m.find l = none

/-- What holds of a run of a member in each phase: the languages of the document are still to be
loaded or settled, and those of the blocks to be rendered are settled. -/
def Ready (m : Member) (root : NodeId) (s : RunState Registries) : Phase → Prop
  | .waiting => True
  | .loading ls => ∀ l ∈ Language.collect s.store root, l ∈ ls ∨ m.Settled s l
  | .recording language ls => ((s.world.get m.id).get? language).isSome ∧
      ∀ l ∈ Language.collect s.store root, l = language ∨ l ∈ ls ∨ m.Settled s l
  | .rendering blocks _ _ => ∀ block ∈ blocks, block.1 < s.store.records.size ∧
      (Language.normalize (s.store.get block.1).language = Language.plainText ∨
        m.Settled s (Language.normalize (s.store.get block.1).language))
  | .ended _ => True

/-- A settled language stays settled. -/
theorem settled_onward (m : Member) (s t : RunState Registries) (h : s.Onward t) (l : String)
    (hl : m.Settled s l) : m.Settled t l :=
  hl.imp_left (h.loaded _ l)

/-- What another run does to the shared state changes nothing for a run. -/
theorem ready_onward (m : Member) (root : NodeId) (s t : RunState Registries) (phase : Phase)
    (h : s.Onward t) (hstore : t.store = s.store) (hr : m.Ready root s phase) :
    m.Ready root t phase := by
  have hkeep := m.settled_onward s t h
  cases phase with
  | waiting => exact trivial
  | loading ls =>
    intro l hl
    rw [hstore] at hl
    exact (hr l hl).imp_right (hkeep l)
  | recording language ls =>
    refine ⟨h.grows.isSome_get? _ _ m.id language hr.1, ?_⟩
    intro l hl
    rw [hstore] at hl
    exact (hr.2 l hl).imp_right (.imp_right (hkeep l))
  | rendering blocks c f =>
    intro block hb
    rw [hstore]
    exact (hr block hb).imp_right (.imp_right (hkeep _))
  | ended result => exact trivial

/-- An attempt of a member leaves the registries grown and the language unknown or with a lexer. -/
theorem attempted (m : Member) (s : RunState Registries) (l : String) :
    LoadState.Attempted m.id m.find l s.loadState
      (s.loadState.attempt m.highlighter.supply l) := by
  rw [m.supply]
  exact LoadState.attempted_supplyFrom m.id m.find l _ (m.declared l)

/-- The hook only lets the registries grow. -/
theorem grows_runHook (m : Member) (s : RunState Registries) :
    s.world.Grows (m.highlighter.runHook s).2.world := by
  rw [Highlighter.runHook]
  cases hh : m.highlighter.hook with
  | none => exact s.world.grows_refl
  | some hook => exact m.hook_grows hook hh s.world

/-- A turn only lets the registries grow. -/
theorem grows_process (m : Member) (s : RunState Registries) (block : NodeId × Slot) :
    s.world.Grows (m.highlighter.process block s).2.world := by
  rw [(m.highlighter.processed_process block s).world]
  exact m.renderer_grows _ _

/-- A record goes to the registry of the member. -/
theorem cache_record (m : Member) (s : RunState Registries) (l : String) :
    (s.loadState.record m.highlighter.supply l).world = s.world ∧
      (s.loadState.record m.highlighter.supply l).cache =
        (s.context.languages.add (.registry m.id) l).1 := by
  rw [m.supply, LoadState.record]
  dsimp only
  split <;> exact ⟨rfl, rfl⟩

/-- What an action does to what runs share: the registries grow, and the memory stays or holds one
language more, which was to be recorded. -/
theorem shared_of_acts (m : Member) (root : NodeId) (p q : Phase) (s t : RunState Registries)
    (h : m.highlighter.Acts root (p, s) (q, t)) : s.world.Grows t.world ∧
      (t.context.languages = s.context.languages ∨ ∃ l ls, p = .recording l ls ∧
        t.context.languages = (s.context.languages.add (.registry m.id) l).1) := by
  have hhook := m.highlighter.runHook_frame s
  cases h with
  | refused _ failure hook => exact ⟨m.grows_runHook s, .inl (by rw [hhook.2.1])⟩
  | idle _ hook hd => exact ⟨m.grows_runHook s, .inl (by rw [hhook.2.1])⟩
  | hooked _ hook hd => exact ⟨m.grows_runHook s, .inl (by rw [hhook.2.1])⟩
  | skipped _ l ls hl => exact ⟨s.world.grows_refl, .inl rfl⟩
  | warned _ l ls failure hl ha => exact ⟨(m.attempted s l).grows, .inl (m.attempted s l).cache⟩
  | unknown _ l ls hl ha => exact ⟨(m.attempted s l).grows, .inl (m.attempted s l).cache⟩
  | registered _ l ls hl ha => exact ⟨(m.attempted s l).grows, .inl (m.attempted s l).cache⟩
  | recorded _ l ls =>
    obtain ⟨hworld, hcache⟩ := m.cache_record s l
    refine ⟨?_, .inr ⟨l, ls, rfl, hcache⟩⟩
    rw [RunState.withLoad, hworld]
    exact s.world.grows_refl
  | loaded _ => exact ⟨s.world.grows_refl, .inl rfl⟩
  | converted _ block rest c f hp =>
    exact ⟨m.grows_process s block, .inl (m.highlighter.processed_process block s).languages⟩
  | failed _ block rest c f hp =>
    exact ⟨m.grows_process s block, .inl (m.highlighter.processed_process block s).languages⟩
  | summed _ c f => exact ⟨s.world.grows_refl, .inl rfl⟩

/-- An action only adds to what runs share. -/
theorem onward_of_acts (m : Member) (root : NodeId) (p q : Phase) (s t : RunState Registries)
    (h : m.highlighter.Acts root (p, s) (q, t)) : s.Onward t := by
  obtain ⟨hgrows, hcache | ⟨l, ls, -, hcache⟩⟩ := m.shared_of_acts root p q s t h
  · refine ⟨hgrows, ?_⟩
    intro scope l hl
    rwa [hcache]
  · refine ⟨hgrows, ?_⟩
    intro scope l' hl
    rw [hcache, LanguageCache.isLoaded_add_iff]
    exact .inl hl

/-- An action records no language without a lexer. -/
theorem sound_of_acts (m : Member) (root : NodeId) (p q : Phase) (s t : RunState Registries)
    (h : m.highlighter.Acts root (p, s) (q, t)) (hs : s.Sound) (hr : m.Ready root s p) :
    t.Sound := by
  obtain ⟨hgrows, hcache | ⟨l, ls, rfl, hcache⟩⟩ := m.shared_of_acts root p q s t h
  · exact hs.of_grows s t hgrows hcache
  · intro id l' hl
    rw [hcache, LanguageCache.isLoaded_add_iff] at hl
    apply hgrows.isSome_get?
    rcases hl with hl | ⟨hid, rfl⟩
    · exact hs id l' hl
    · rw [Scope.registry.injEq] at hid
      subst id
      exact hr.1

/-- Once the next language is settled, a run is ready for those behind it. -/
theorem ready_behind (m : Member) (root : NodeId) (s t : RunState Registries) (l : String)
    (ls : List String) (h : s.Onward t) (hstore : t.store = s.store) (hl : m.Settled t l)
    (hr : m.Ready root s (.loading (l :: ls))) : m.Ready root t (.loading ls) := by
  intro l' hl'
  rw [hstore] at hl'
  rcases hr l' hl' with hmem | hsettled
  · rcases List.mem_cons.mp hmem with rfl | hmem
    · exact .inr hl
    · exact .inl hmem
  · exact .inr (m.settled_onward s t h l' hsettled)

/-- A turn keeps the blocks behind it ready. -/
theorem ready_process (m : Member) (root : NodeId) (s : RunState Registries)
    (block : NodeId × Slot) (rest : List (NodeId × Slot)) (c f c' f' : Nat)
    (h : s.Onward (m.highlighter.process block s).2)
    (hr : m.Ready root s (.rendering (block :: rest) c f)) :
    m.Ready root (m.highlighter.process block s).2 (.rendering rest c' f') := by
  have hstore := (m.highlighter.processed_process block s).store
  intro b hb
  obtain ⟨hlt, hlanguage⟩ := hr b (List.mem_cons_of_mem _ hb)
  have hsize := s.store.size_le_place (m.highlighter.nextOutcome block s)
  have hbare := s.store.bare_get_place (m.highlighter.nextOutcome block s) b.1 hlt
  rw [← hstore] at hsize hbare
  have hsame : ((m.highlighter.process block s).2.store.get b.1).language =
      (s.store.get b.1).language := by
    have hlanguage := congrArg NodeRecord.language hbare
    exact hlanguage
  rw [hsame]
  exact ⟨Nat.lt_of_lt_of_le hlt hsize, hlanguage.imp_right (m.settled_onward _ _ h _)⟩

/-- An action leaves a run ready for its next phase. -/
theorem ready_of_acts (m : Member) (root : NodeId) (p q : Phase) (s t : RunState Registries)
    (h : m.highlighter.Acts root (p, s) (q, t)) (hr : m.Ready root s p) : m.Ready root t q := by
  have honward := m.onward_of_acts root p q s t h
  have hkeep := m.settled_onward s t honward
  cases h with
  | refused _ failure hook => exact trivial
  | idle _ hook hd => exact trivial
  | hooked _ hook hd =>
    intro l hl
    rw [(m.highlighter.runHook_frame s).1] at hl
    exact .inl (Language.mem_distinct _ l hl)
  | skipped _ l ls hl =>
    rw [m.supply] at hl
    exact m.ready_behind root s s l ls honward rfl (.inl hl) hr
  | warned _ l ls failure hl ha => exact ((m.attempted s l).ne_error failure ha).elim
  | unknown _ l ls hl ha =>
    exact m.ready_behind root s _ l ls honward rfl (.inr ((m.attempted s l).unknown ha)) hr
  | registered _ l ls hl ha =>
    refine ⟨(m.attempted s l).registered ha, ?_⟩
    intro l' hl'
    rcases hr l' hl' with hmem | hsettled
    · exact (List.mem_cons.mp hmem).imp_right .inl
    · exact .inr (.inr (hkeep l' hsettled))
  | recorded _ l ls =>
    intro l' hl'
    rcases hr.2 l' hl' with rfl | hmem | hsettled
    · right
      left
      rw [RunState.withLoad, (m.cache_record s l').2, LanguageCache.isLoaded_add_iff]
      exact .inr ⟨rfl, rfl⟩
    · exact .inl hmem
    · exact .inr (hkeep l' hsettled)
  | loaded _ =>
    intro block hb
    have hfound := (Highlighter.order_inOrder _).perm.mem_iff.mp hb
    refine ⟨Highlighter.lt_size_of_mem_discover s.store root block hfound, ?_⟩
    apply (Highlighter.mem_collect_of_mem_discover s.store root block hfound).imp_right
    intro hl
    exact (hr _ hl).resolve_left List.not_mem_nil
  | converted _ block rest c f hp => exact m.ready_process root s block rest c f _ _ honward hr
  | failed _ block rest c f hp => exact m.ready_process root s block rest c f _ _ honward hr
  | summed _ c f => exact trivial

end Member

/-- A run that belongs to a session. -/
structure Task where
  member : Member
  root : NodeId
  phase : Phase
  store : Store
  trace : List Step := []

/-- Runs of members that share a context and the registries. -/
structure Session where
  world : Registries
  context : HighlightContext
  tasks : Nat → Task

namespace Session

/-- The state of a run: its own document and trace, and what is shared. -/
def state (x : Session) (i : Nat) : RunState Registries where
  world := x.world
  context := x.context
  store := (x.tasks i).store
  trace := (x.tasks i).trace

/-- The session in which a run has come to a phase and a state. -/
def put (x : Session) (i : Nat) (phase : Phase) (s : RunState Registries) : Session where
  world := s.world
  context := s.context
  tasks := Function.update x.tasks i
    { x.tasks i with phase := phase, store := s.store, trace := s.trace }

/-- What a run asks the renderer for a block. -/
def request (x : Session) (i : Nat) (block : NodeId × Slot) : RenderRequest :=
  (x.tasks i).member.highlighter.nextRequest block (x.state i)

/-- The renderer looks a block up in the registry of its own library and finds no lexer, so that it
takes the one for plain text. -/
def FallsBack (x : Session) (i : Nat) (block : NodeId × Slot) : Prop :=
  (∃ gallery, (x.tasks i).member.highlighter.renderer =
      Registries.render gallery (x.tasks i).member.id) ∧
    (x.world.get (x.tasks i).member.id).get? (x.request i block).language = none

/-- What a run makes of its document if no other acts until it has ended. -/
def transformed (x : Session) (i : Nat) : Except Failure Unit × RunState Registries :=
  (x.tasks i).member.highlighter.transform (x.tasks i).root (x.state i)

/-- One of the runs acts. -/
def Moves (x y : Session) : Prop :=
  ∃ i phase s, (x.tasks i).member.highlighter.Acts (x.tasks i).root
    ((x.tasks i).phase, x.state i) (phase, s) ∧ y = x.put i phase s

/-- The runs act one after the other, in any order. -/
abbrev Reaches (x y : Session) : Prop := Relation.ReflTransGen Moves x y

/-- No run has begun, and no language is recorded for a registry. -/
structure Begins (x : Session) : Prop where
  waiting : ∀ i, (x.tasks i).phase = .waiting
  unloaded : ∀ id l, x.context.languages.isLoaded (.registry id) l = false

/-- What is recorded has its lexer, and each run is ready for its phase. -/
structure Valid (x : Session) : Prop where
  sound : ∀ id l, x.context.languages.isLoaded (.registry id) l = true →
    ((x.world.get id).get? l).isSome
  ready : ∀ i, (x.tasks i).member.Ready (x.tasks i).root (x.state i) (x.tasks i).phase

/-- A session that begins is valid. -/
theorem Begins.valid (x : Session) (h : x.Begins) : x.Valid := by
  constructor
  · intro id l hl
    rw [h.unloaded id l] at hl
    cases hl
  · intro i
    rw [h.waiting i]
    exact trivial

/-- The action of one run keeps a session valid. -/
theorem Valid.moves (x y : Session) (hx : x.Valid) (h : x.Moves y) : y.Valid := by
  obtain ⟨i, phase, s, hacts, rfl⟩ := h
  have honward := (x.tasks i).member.onward_of_acts _ _ _ _ _ hacts
  constructor
  · exact (x.tasks i).member.sound_of_acts _ _ _ _ _ hacts hx.sound (hx.ready i)
  · intro j
    by_cases hj : j = i
    · subst j
      have hready := (x.tasks i).member.ready_of_acts _ _ _ _ _ hacts (hx.ready i)
      simpa only [put, state, Function.update_self] using hready
    · -- Another run sees only that what it shares has grown.
      have hstate : (x.state j).Onward ((x.put i phase s).state j) :=
        ⟨honward.grows, honward.loaded⟩
      have htask : (x.put i phase s).tasks j = x.tasks j := Function.update_of_ne hj _ _
      rw [htask]
      apply (x.tasks j).member.ready_onward _ _ _ _ hstate _ (hx.ready j)
      rw [state, htask, state]

/-- A session that has begun stays valid. -/
theorem Begins.valid_of_reaches (x y : Session) (h : x.Begins) (hr : x.Reaches y) : y.Valid := by
  induction hr with
  | refl => exact h.valid
  | tail _ hmoves ih => exact ih.moves _ _ hmoves

/-- A run of the session may act on its own for a while. -/
theorem reaches_of_leads (x : Session) (i : Nat) (a : Phase × RunState Registries)
    (h : (x.tasks i).member.highlighter.Leads (x.tasks i).root
      ((x.tasks i).phase, x.state i) a) : x.Reaches (x.put i a.1 a.2) := by
  induction h with
  | refl =>
    have hsame : x.put i (x.tasks i).phase (x.state i) = x := by
      simp only [put, state, Function.update_eq_self]
    rw [hsame]
  | tail hleads hacts ih =>
    rename_i b c
    apply ih.tail
    refine ⟨i, c.1, c.2, ?_, ?_⟩
    · simpa only [put, state, Function.update_self] using hacts
    · simp only [put, Function.update_self, Function.update_idem]

/-- At every point of a session every language recorded for a registry has a lexer there. A block
whose turn has come falls back to plain text only if that is its language or the library does not
know its language. A run that no other disturbs is that of `transform`. -/
theorem registered_of_reaches (x y : Session) (begins : x.Begins) (reached : x.Reaches y) :
    (∀ id l, y.context.languages.isLoaded (.registry id) l = true →
      (y.world.get id).get? l ≠ none) ∧
    (∀ i block rest converted failed,
      (y.tasks i).phase = .rendering (block :: rest) converted failed → y.FallsBack i block →
        (y.request i block).language = Language.plainText ∨
          (y.tasks i).member.find (y.request i block).language = none) ∧
    (∀ i, (y.tasks i).phase = .waiting →
      y.Reaches (y.put i (.ended (y.transformed i).1) (y.transformed i).2)) := by
  have hvalid := begins.valid_of_reaches x y reached
  refine ⟨?_, ?_, ?_⟩
  · intro id l hl
    exact Option.isSome_iff_ne_none.mp (hvalid.sound id l hl)
  · rintro i block rest converted failed hphase ⟨-, hnone⟩
    have hready := hvalid.ready i
    rw [hphase] at hready
    rw [request, Highlighter.language_nextRequest] at hnone ⊢
    rcases (hready block List.mem_cons_self).2 with htext | hloaded | hunknown
    · exact .inl htext
    · have hsome := hvalid.sound _ _ hloaded
      rw [Option.isSome_iff_ne_none] at hsome
      exact (hsome hnone).elim
    · exact .inr hunknown
  · intro i hphase
    have hleads := (y.tasks i).member.highlighter.leads_transform (y.tasks i).root (y.state i)
    rw [← hphase] at hleads
    exact y.reaches_of_leads i _ hleads

/-- A lexer of the library declares the languages that it is found for. -/
theorem mem_aliases_of_bundled (language : String) (lexer : Lexer)
    (h : Lexer.bundled? language = some lexer) : Text.lowered language ∈ lexer.aliases := by
  have hcontains := List.find?_some h
  simpa using hcontains

/-- A highlighter with the lexers of the library whose hook registers one in the next registry. -/
def neighbour (id : Nat) : Member where
  id := id
  find := Lexer.bundled?
  declared := mem_aliases_of_bundled
  highlighter :=
    { theme := "monokai"
      defaults := {}
      hook := some (Registries.registerEach (id + 1) [(Lexer.json, ["ada"])])
      supply := Registries.supply id
      renderer := Registries.render .bundled id }
  supply := Registries.supply_eq id
  hook_grows := fun _ hook w => Option.some.inj hook ▸ w.grows_registerEach _ _
  renderer_grows := fun request w =>
    (Registries.world_render .bundled id request w).symm ▸ w.grows_refl

/-- A document with one block whose tag has a capital letter. -/
def casedPython : Store where
  records := #[
    { kind := Node.rootKind, children := some [1] },
    { kind := Node.codeKind, value := some "x", language := some "Python" }]

/-- Neighbours that are to highlight the same document. -/
def neighbours : Session where
  world := {}
  context := {}
  tasks := fun id => { member := neighbour id, root := 0, phase := .waiting, store := casedPython }

private theorem begins_neighbours : neighbours.Begins := ⟨fun _ => rfl, fun _ _ => rfl⟩

private theorem discover_casedPython : Highlighter.discover casedPython 0 ≠ [] := by
  rw [Highlighter.discover, Store.visitsOf, Store.visits, Occurrence.visits_eq_preorder]
  decide +kernel

private theorem languages_casedPython :
    Language.distinct (Language.collect casedPython 0) = ["Python"] := by
  rw [Language.collect, Store.visitsOf, Store.visits, Occurrence.visits_eq_preorder]
  decide +kernel

/-- Once the first neighbour has loaded its language, there is a lexer for the tag as it stands. -/
theorem registered_casedPython : ∃ y, neighbours.Reaches y ∧
    y.context.languages.isLoaded (.registry 0) "Python" = true ∧
    (y.world.get 0).get? "Python" ≠ none := by
  have hhook : (neighbour 0).highlighter.Acts 0 (.waiting, neighbours.state 0) _ :=
    .hooked _ rfl discover_casedPython
  have hstore : (neighbours.state 0).store = casedPython := rfl
  rw [hstore, languages_casedPython] at hhook
  have hleads := Relation.ReflTransGen.head hhook ((neighbour 0).highlighter.leads_loadAll 0 _ _)
  have hreaches := neighbours.reaches_of_leads 0 _ hleads
  have hloaded := (LoadState.loadOne_supplyFrom 0 Lexer.bundled? "Python"
    ((neighbour 0).highlighter.runHook (neighbours.state 0)).2.loadState
    fun l lexer hl => lexer.effectiveNames_ne_nil _ ((neighbour 0).declared l lexer hl)).2 "Python"
  have hknown : (Lexer.bundled? "Python").isSome = true := by decide +kernel
  rw [beq_self_eq_true, hknown, Bool.and_true, Bool.or_true] at hloaded
  exact ⟨_, hreaches, hloaded,
    (registered_of_reaches neighbours _ begins_neighbours hreaches).1 0 "Python" hloaded⟩

end Session

end CodeHighlight
