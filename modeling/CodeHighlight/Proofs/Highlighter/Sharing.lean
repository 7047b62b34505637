import CodeHighlight.Highlighter.Registries
import CodeHighlight.Proofs.Highlighter.Transform
import CodeHighlight.Proofs.Lexer.Registry

/-!
# A shared registry of lexers

A highlighter whose hook, supplier and renderer share one registry, and what a run leaves there: the
lexers of the hook, and behind them those that loading finds for languages that no earlier run has
loaded. Rendering leaves the registry as it is.
-/

namespace CodeHighlight

namespace Registries

/-- What was put last is found. -/
@[simp] theorem get_put (w : Registries) (id : Nat) (r : LexerRegistry) :
    (w.put id r).get id = r := by
  simp [get, put]

/-- Supplies the registry with a number with the lexers that `find` knows. -/
def supplyFrom (id : Nat) (find : String → Option Lexer) : GrammarSupply Registries Lexer where
  scope := .registry id
  fetch language := fun w => (.ok (find language), w)
  register := register id

/-- The supplier of the library is the one that knows the lexers that the library brings. -/
theorem supply_eq (id : Nat) : supply id = supplyFrom id Lexer.bundled? := rfl

/-- A hook that registers lexers under the aliases given. -/
def registerEach (id : Nat) (calls : List (Lexer × List String)) :
    Action Registries Unit := fun w =>
  match (w.get id).registerEach calls with
  | (.error fault, r) => (.error fault.failure, w.put id r)
  | (.ok (), r) => (.ok (), w.put id r)

/-- The hook fails as the registry does, and leaves what the registry holds then. -/
theorem registerEach_eq (id : Nat) (calls : List (Lexer × List String)) (w : Registries) :
    registerEach id calls w = (((w.get id).registerEach calls).1.mapError RegistrationFault.failure,
      w.put id ((w.get id).registerEach calls).2) := by
  rw [registerEach]
  cases (w.get id).registerEach calls with
  | mk result r => cases result <;> rfl

/-- Rendering leaves the world as it is. -/
theorem world_render (gallery : Theme.Gallery) (id : Nat) (request : RenderRequest)
    (w : Registries) : (render gallery id request w).2 = w := by
  rw [render]
  split <;> rfl

/-- What loading registers for languages: the lexers of those that are known and not loaded yet. -/
def missing (find : String → Option Lexer) (cache : LanguageCache) (scope : Scope)
    (languages : List String) : List Registration :=
  (languages.filter fun l => !cache.isLoaded scope l).filterMap fun l =>
    (find l).map fun lexer => Registration.ofCall (lexer, [])

/-- What is missing of languages side by side. -/
theorem missing_append (find : String → Option Lexer) (cache : LanguageCache) (scope : Scope)
    (a b : List String) :
    missing find cache scope (a ++ b) =
      missing find cache scope a ++ missing find cache scope b := by
  rw [missing, List.filter_append, List.filterMap_append]
  rfl

/-- Only what the memory knows of the languages themselves counts. -/
theorem missing_congr (find : String → Option Lexer) (cache cache' : LanguageCache) (scope : Scope)
    (languages : List String)
    (h : ∀ l ∈ languages, cache.isLoaded scope l = cache'.isLoaded scope l) :
    missing find cache scope languages = missing find cache' scope languages := by
  rw [missing, missing]
  congr 1
  apply List.filter_congr
  intro l hl
  rw [h l hl]

/-- Nothing is missing of languages that are loaded or unknown. -/
theorem missing_eq_nil (find : String → Option Lexer) (cache : LanguageCache) (scope : Scope)
    (languages : List String)
    (h : ∀ l ∈ languages, cache.isLoaded scope l = true ∨ find l = none) :
    missing find cache scope languages = [] := by
  apply List.filterMap_eq_nil_iff.mpr
  intro l hl
  obtain ⟨hmem, hnot⟩ := List.mem_filter.mp hl
  rcases h l hmem with hloaded | hnone
  · rw [hloaded] at hnot
    cases hnot
  · rw [hnone]
    rfl

end Registries

namespace LoadState

private theorem loadOne_of_known (id : Nat) (find : String → Option Lexer) (language : String)
    (s : LoadState Registries) (lexer : Lexer)
    (hl : s.cache.isLoaded (.registry id) language = false) (hf : find language = some lexer)
    (hn : lexer.effectiveNames [] ≠ []) :
    let t := (s.loadOne (Registries.supplyFrom id find) language).2
    t.world.get id = (s.world.get id).insertAll lexer (lexer.effectiveNames []) ∧
      t.cache = (s.cache.add (.registry id) language).1 := by
  have hregister (w : Registries) : Registries.register id lexer w =
      (.ok (), w.put id ((w.get id).insertAll lexer (lexer.effectiveNames []))) := by
    rw [Registries.register, LexerRegistry.register_of_names _ _ _ hn]
  have hadd : s.cache.add (.registry id) language =
      (⟨s.cache.entries ++ [(.registry id, language)]⟩, true) := by
    rw [LanguageCache.add, hl, if_neg Bool.false_ne_true]
  simp only [loadOne, Registries.supplyFrom, hl, attempt, hf, hregister, note, hadd]
  exact ⟨Registries.get_put _ _ _, rfl⟩

private theorem loadOne_of_unknown (id : Nat) (find : String → Option Lexer) (language : String)
    (s : LoadState Registries) (hf : find language = none) :
    let t := (s.loadOne (Registries.supplyFrom id find) language).2
    t.world = s.world ∧ t.cache = s.cache := by
  simp only [loadOne, Registries.supplyFrom, attempt, hf, note]
  split <;> exact ⟨rfl, rfl⟩

private theorem loadOne_of_loaded (id : Nat) (find : String → Option Lexer) (language : String)
    (s : LoadState Registries) (hl : s.cache.isLoaded (.registry id) language = true) :
    (s.loadOne (Registries.supplyFrom id find) language).2 = s := by
  have hscope : (Registries.supplyFrom id find).scope = .registry id := rfl
  rw [loadOne, hscope, if_pos hl]

/-- What loading a language does to a registry and to the memory. -/
theorem loadOne_supplyFrom (id : Nat) (find : String → Option Lexer) (language : String)
    (s : LoadState Registries)
    (named : ∀ l lexer, find l = some lexer → lexer.effectiveNames [] ≠ []) :
    let t := (s.loadOne (Registries.supplyFrom id find) language).2
    t.world.get id = (s.world.get id).insertEach
        (Registries.missing find s.cache (.registry id) [language]) ∧
      ∀ l, t.cache.isLoaded (.registry id) l =
        (s.cache.isLoaded (.registry id) l || (l == language && (find language).isSome)) := by
  by_cases hl : s.cache.isLoaded (.registry id) language = true
  · have hstay := loadOne_of_loaded id find language s hl
    dsimp only
    rw [hstay]
    constructor
    · rw [Registries.missing_eq_nil]
      · rfl
      · intro l hm
        rw [List.mem_singleton.mp hm]
        exact .inl hl
    · intro l
      by_cases he : l = language
      · rw [he, hl, Bool.true_or]
      · rw [beq_false_of_ne he, Bool.false_and, Bool.or_false]
  · have hfalse : s.cache.isLoaded (.registry id) language = false := by simpa using hl
    cases hf : find language with
    | none =>
      obtain ⟨hworld, hcache⟩ := loadOne_of_unknown id find language s hf
      dsimp only
      rw [hworld, hcache]
      constructor
      · rw [Registries.missing_eq_nil]
        · rfl
        · intro l hm
          rw [List.mem_singleton.mp hm]
          exact .inr hf
      · intro l
        rw [Option.isSome_none, Bool.and_false, Bool.or_false]
    | some lexer =>
      obtain ⟨hworld, hcache⟩ := loadOne_of_known id find language s lexer hfalse hf
        (named language lexer hf)
      dsimp only
      rw [hworld, hcache]
      constructor
      · have hone : Registries.missing find s.cache (.registry id) [language] =
            [Registration.ofCall (lexer, [])] := by
          simp [Registries.missing, hfalse, hf]
        rw [hone]
        rfl
      · intro l
        rw [LanguageCache.isLoaded_add, Option.isSome_some, Bool.and_true]

/-- What loading languages does to a registry and to the memory: the lexers of the missing languages
are registered, and of the languages that are known none is missing any more. -/
structure Supplied (find : String → Option Lexer) (id : Nat) (languages : List String)
    (s t : LoadState Registries) : Prop where
  registry : t.world.get id = (s.world.get id).insertEach
    (Registries.missing find s.cache (.registry id) languages)
  kept : ∀ l, s.cache.isLoaded (.registry id) l = true → t.cache.isLoaded (.registry id) l = true
  settled : ∀ l ∈ languages, t.cache.isLoaded (.registry id) l = true ∨ find l = none

/-- Loading languages that differ supplies what is missing of them. The induction is on the
languages; that they differ keeps what is missing of the rest as it was. -/
theorem supplied_loadAll (id : Nat) (find : String → Option Lexer) (languages : List String)
    (s : LoadState Registries) (hn : languages.Nodup)
    (named : ∀ l lexer, find l = some lexer → lexer.effectiveNames [] ≠ []) :
    Supplied find id languages s (s.loadAll (Registries.supplyFrom id find) languages).2 := by
  induction languages generalizing s with
  | nil => exact ⟨rfl, fun _ hl => hl, nofun⟩
  | cons language rest ih =>
    obtain ⟨hlanguage, hrest⟩ := List.nodup_cons.mp hn
    obtain ⟨hworld, hcache⟩ := loadOne_supplyFrom id find language s named
    have hall := ih (s.loadOne (Registries.supplyFrom id find) language).2 hrest
    have hsame : ∀ l ∈ rest, (s.loadOne (Registries.supplyFrom id find) language).2.cache.isLoaded
        (.registry id) l = s.cache.isLoaded (.registry id) l := by
      intro l hl
      have hne : l ≠ language := fun e => hlanguage (e ▸ hl)
      rw [hcache l, beq_false_of_ne hne, Bool.false_and, Bool.or_false]
    rw [loadAll]
    constructor
    · rw [hall.registry, hworld, Registries.missing_congr find _ _ _ rest hsame,
        ← LexerRegistry.insertEach_append, ← Registries.missing_append, List.singleton_append]
    · intro l hl
      apply hall.kept
      rw [hcache l, hl, Bool.true_or]
    · intro l hl
      rcases List.mem_cons.mp hl with rfl | hl
      · cases hf : find l with
        | none => exact .inr rfl
        | some lexer =>
          left
          apply hall.kept
          rw [hcache l, hf, beq_self_eq_true, Option.isSome_some, Bool.and_true, Bool.or_true]
      · exact hall.settled l hl

end LoadState

/-- The state of a run, with another store of documents. -/
def RunState.over {ω : Type} (s : RunState ω) (store : Store) : RunState ω := { s with store }

/-- A library of lexers and a hook that share one registry with the renderer. -/
structure Sharing where
  /-- The number of the registry. -/
  id : Nat
  /-- The lexer that the library has for a language. -/
  find : String → Option Lexer
  /-- A lexer of the library declares the languages that it is found for in small letters. -/
  declared : ∀ language lexer, find language = some lexer → Text.lowered language ∈ lexer.aliases
  /-- The lexers that the hook registers, each with the aliases given for it. -/
  hook : Option (List (Lexer × List String)) := none
  theme : String
  defaults : Directives := {}
  gallery : Theme.Gallery := .bundled

namespace Sharing

/-- The highlighter whose hook, supplier and renderer share the registry. -/
def highlighter (c : Sharing) : Highlighter Registries Lexer where
  theme := c.theme
  defaults := c.defaults
  hook := c.hook.map (Registries.registerEach c.id)
  supply := Registries.supplyFrom c.id c.find
  renderer := Registries.render c.gallery c.id

/-- What the hook registers. -/
def customs (c : Sharing) : List Registration := (c.hook.getD []).map Registration.ofCall

/-- What a run registers behind the hook: the lexers of languages not loaded before. -/
def bundled (c : Sharing) (root : NodeId) (s : RunState Registries) : List Registration :=
  Registries.missing c.find s.context.languages (.registry c.id)
    (Language.collect s.store root)

/-- A lexer of the library has a name. -/
theorem named (c : Sharing) (language : String) (lexer : Lexer)
    (h : c.find language = some lexer) : lexer.effectiveNames [] ≠ [] :=
  lexer.effectiveNames_ne_nil _ (c.declared language lexer h)

private theorem runHook_of_some (c : Sharing) (calls : List (Lexer × List String))
    (hc : c.hook = some calls) (s : RunState Registries) :
    (c.highlighter.runHook s).1 =
        ((s.world.get c.id).registerEach calls).1.mapError RegistrationFault.failure ∧
      (c.highlighter.runHook s).2.world.get c.id = ((s.world.get c.id).registerEach calls).2 := by
  have hhook : c.highlighter.hook = some (Registries.registerEach c.id calls) := by
    rw [highlighter, hc, Option.map_some]
  rw [Highlighter.runHook, hhook]
  dsimp only [RunState.note]
  rw [Registries.registerEach_eq]
  exact ⟨rfl, Registries.get_put _ _ _⟩

private theorem runHook_of_none (c : Sharing) (hc : c.hook = none) (s : RunState Registries) :
    c.highlighter.runHook s = (.ok (), s) := by
  have hhook : c.highlighter.hook = none := by rw [highlighter, hc, Option.map_none]
  rw [Highlighter.runHook, hhook]

private theorem ok_of_mapError (result : Except RegistrationFault Unit)
    (h : result.mapError RegistrationFault.failure = .ok ()) : result = .ok () := by
  cases result with
  | error fault => cases h
  | ok _ => rfl

/-- A hook that passes registers all its lexers. -/
theorem registry_runHook (c : Sharing) (s : RunState Registries)
    (passes : (c.highlighter.runHook s).1 = .ok ()) :
    (c.highlighter.runHook s).2.world.get c.id = (s.world.get c.id).insertEach c.customs := by
  cases hc : c.hook with
  | none =>
    rw [runHook_of_none c hc s, customs, hc]
    rfl
  | some calls =>
    obtain ⟨hresult, hworld⟩ := runHook_of_some c calls hc s
    rw [hresult] at passes
    rw [hworld, customs, hc]
    exact (LexerRegistry.registerEach_of_ok _ calls (ok_of_mapError _ passes)).2

/-- A hook that passes once passes always. -/
theorem passes_again (c : Sharing) (s s' : RunState Registries)
    (passes : (c.highlighter.runHook s).1 = .ok ()) :
    (c.highlighter.runHook s').1 = .ok () := by
  cases hc : c.hook with
  | none => rw [runHook_of_none c hc s']
  | some calls =>
    rw [(runHook_of_some c calls hc s).1] at passes
    have hnames := (LexerRegistry.registerEach_of_ok _ calls (ok_of_mapError _ passes)).1
    rw [(runHook_of_some c calls hc s').1, LexerRegistry.registerEach_ok _ calls hnames]
    rfl

/-- What the renderer answers in a world. -/
def answers (c : Sharing) (w : Registries) (request : RenderRequest) : Except Failure Payload :=
  (Registries.render c.gallery c.id request w).1

/-- In a world that rendering leaves as it is, the answers depend on the request alone. -/
theorem answers_highlighter (c : Sharing) (w : Registries) :
    c.highlighter.Answers (· = w) (c.answers w) := by
  rintro request _ rfl
  exact ⟨rfl, Registries.world_render _ _ _ _⟩

/-- A run with blocks leaves the world as loading the languages left it. -/
theorem world_transform (c : Sharing) (root : NodeId) (s : RunState Registries)
    (passes : (c.highlighter.runHook s).1 = .ok ()) (hd : Highlighter.discover s.store root ≠ []) :
    (c.highlighter.transform root s).2.world =
      (c.highlighter.loadLanguages root (c.highlighter.runHook s).2).world := by
  rw [Highlighter.transform_of_hook c.highlighter root s passes hd]
  exact (Highlighter.processedAll_loaded c.highlighter _ _
    (c.answers_highlighter _) root s rfl).world

/-- A run places what the renderer answers in the world that the run leaves. -/
theorem ran_transform (c : Sharing) (root : NodeId) (s : RunState Registries)
    (passes : (c.highlighter.runHook s).1 = .ok ()) :
    c.highlighter.Ran (c.answers (c.highlighter.transform root s).2.world) root s
      (c.highlighter.transform root s) := by
  apply Highlighter.ran_transform c.highlighter _ _ (c.answers_highlighter _) root s passes
  intro hd
  exact (c.world_transform root s passes hd).symm

/-- What loading the languages of a document supplies. -/
theorem supplied_loadLanguages (c : Sharing) (root : NodeId) (s : RunState Registries) :
    let loaded := c.highlighter.loadLanguages root s
    LoadState.Supplied c.find c.id (Language.collect s.store root)
      ⟨s.world, s.context.languages, s.trace⟩
      ⟨loaded.world, loaded.context.languages, loaded.trace⟩ := by
  have hall := LoadState.supplied_loadAll c.id c.find (Language.collect s.store root)
    ⟨s.world, s.context.languages, s.trace⟩ (Language.nodup_collect s.store root) c.named
  have hdistinct := Language.distinct_of_nodup _ (Language.nodup_collect s.store root)
  rw [← hdistinct] at hall
  rw [← hdistinct]
  exact hall

/-- A run with blocks leaves in the registry what the hook registers and behind it the lexers of
languages not loaded before. -/
theorem registry_transform (c : Sharing) (root : NodeId) (s : RunState Registries)
    (passes : (c.highlighter.runHook s).1 = .ok ()) (hd : Highlighter.discover s.store root ≠ []) :
    (c.highlighter.transform root s).2.world.get c.id =
      ((s.world.get c.id).insertEach c.customs).insertEach (c.bundled root s) := by
  have hsupplied := c.supplied_loadLanguages root (c.highlighter.runHook s).2
  obtain ⟨hstore, hcontext, -⟩ := Highlighter.runHook_frame c.highlighter s
  rw [c.world_transform root s passes hd, ← c.registry_runHook s passes, bundled, ← hstore,
    ← hcontext]
  exact hsupplied.registry

/-- After a run with blocks nothing is missing for a document with the same languages. -/
theorem bundled_again (c : Sharing) (root root' : NodeId) (s : RunState Registries) (copy : Store)
    (same : copy.tree root' = s.store.tree root) (passes : (c.highlighter.runHook s).1 = .ok ())
    (hd : Highlighter.discover s.store root ≠ []) :
    c.bundled root' ((c.highlighter.transform root s).2.over copy) = [] := by
  have hcollect : Language.collect copy root' = Language.collect s.store root := by
    rw [Highlighter.collect_eq, Highlighter.collect_eq, same]
  have hlanguages : (c.highlighter.transform root s).2.context.languages =
      (c.highlighter.loadLanguages root (c.highlighter.runHook s).2).context.languages := by
    rw [Highlighter.transform_of_hook c.highlighter root s passes hd]
    exact (Highlighter.processedAll_loaded c.highlighter _ _
      (c.answers_highlighter _) root s rfl).languages
  rw [bundled, RunState.over, hlanguages, hcollect]
  apply Registries.missing_eq_nil
  have hsupplied := c.supplied_loadLanguages root (c.highlighter.runHook s).2
  rw [(Highlighter.runHook_frame c.highlighter s).1] at hsupplied
  exact hsupplied.settled

/-- A second run over a document with blocks and the same languages registers only the lexers of the
hook. -/
theorem registry_again (c : Sharing) (root root' : NodeId) (s : RunState Registries) (copy : Store)
    (same : copy.tree root' = s.store.tree root) (passes : (c.highlighter.runHook s).1 = .ok ())
    (hd : Highlighter.discover s.store root ≠ []) :
    (c.highlighter.transform root'
        ((c.highlighter.transform root s).2.over copy)).2.world.get c.id =
      ((c.highlighter.transform root s).2.world.get c.id).insertEach c.customs := by
  have hd' : Highlighter.discover copy root' ≠ [] :=
    Highlighter.discover_copy s.store copy root root' same hd
  have hregistry := c.registry_transform root' ((c.highlighter.transform root s).2.over copy)
    (c.passes_again s _ passes) hd'
  rwa [c.bundled_again root root' s copy same passes hd, LexerRegistry.insertEach_nil] at hregistry

end Sharing

end CodeHighlight
