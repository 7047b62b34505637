import CodeHighlight.Diagnostics
import CodeHighlight.Language
import CodeHighlight.Language.Cache
import CodeHighlight.Trace

/-!
# Loading grammars

A supplier fetches the grammar of a language and registers it where the renderer finds it. Each
language is loaded at most once per scope; an unknown language is passed over, and a failing one is
reported and leaves the others alone.
-/

namespace CodeHighlight

/-- An action on a world that may fail; the world keeps what happened before the failure. -/
abbrev Action (ω α : Type) := ω → Except Failure α × ω

/-- A source of grammars of type `γ` that acts on a world `ω`. -/
structure GrammarSupply (ω γ : Type) where
  /-- Where grammars are registered. -/
  scope : Scope
  /-- The grammar of a language, if it is known. -/
  fetch : String → Action ω (Option γ)
  /-- Makes a grammar available. -/
  register : γ → Action ω Unit

/-- The state that loading changes: the world of the supplier, the memory and the trace. -/
structure LoadState (ω : Type) where
  world : ω
  cache : LanguageCache
  trace : List Step

namespace LoadState

variable {ω γ : Type}

/-- Appends a step to the trace. -/
def note (s : LoadState ω) (step : Step) : LoadState ω := { s with trace := s.trace ++ [step] }

/-- Fetches and registers the grammar of one language; the flag tells whether it is loaded. -/
def attempt (supply : GrammarSupply ω γ) (language : String) (s : LoadState ω) :
    Except Failure Bool × LoadState ω :=
  let s := s.note (.fetch language)
  match supply.fetch language s.world with
  | (.error failure, world) => (.error failure, { s with world })
  | (.ok none, world) => (.ok false, { s with world }.note (.unknownLanguage language))
  | (.ok (some grammar), world) =>
    let s := { s with world }.note (.register language)
    match supply.register grammar s.world with
    | (.error failure, world) => (.error failure, { s with world })
    | (.ok (), world) => (.ok true, { s with world })

/-- Loads one language unless it is loaded already; the flag tells whether it was loaded now. -/
def loadOne (supply : GrammarSupply ω γ) (language : String) (s : LoadState ω) :
    Bool × LoadState ω :=
  if s.cache.isLoaded supply.scope language then (false, s)
  else match s.attempt supply language with
    | (.error failure, s) =>
      (false, s.note (.report (.warning ("Failed to load language " ++ language) (some failure))))
    | (.ok false, s) => (false, s)
    | (.ok true, s) =>
      let (cache, fresh) := s.cache.add supply.scope language
      let s := { s with cache }
      (fresh, if fresh then s.note (.report (.languageLoaded language)) else s)

/-- Loads languages one after the other and lists those loaded now. -/
def loadAll (supply : GrammarSupply ω γ) : List String → LoadState ω → List String × LoadState ω
  | [], s => ([], s)
  | language :: rest, s =>
    let (fresh, s) := s.loadOne supply language
    let (loaded, s) := loadAll supply rest s
    (if fresh then language :: loaded else loaded, s)

/-- Loads each of the languages once. -/
def load (supply : GrammarSupply ω γ) (languages : List String) (s : LoadState ω) :
    List String × LoadState ω :=
  s.loadAll supply (Language.distinct languages)

end LoadState

end CodeHighlight
