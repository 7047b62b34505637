import CodeHighlight.Proofs.Highlighter.Transform
import Mathlib.Logic.Relation

/-!
# A run action by action

Where several runs share a world and a context, one run may act between two actions of another. The
actions of a run are the call of the hook, the attempt to load a language, the record of a language
that was registered, and the turn of a block. A run that nobody disturbs does what `transform` does.
-/

namespace CodeHighlight

/-- How far a run has come, with what it still has to do. -/
inductive Phase where
  | waiting
  | loading (languages : List String)
  /-- The grammar of a language is registered, but the memory does not hold the language yet. -/
  | recording (language : String) (languages : List String)
  | rendering (blocks : List (NodeId × Slot)) (converted failed : Nat)
  | ended (result : Except Failure Unit)

namespace LoadState

variable {ω γ : Type}

/-- Records a language whose grammar was registered. -/
def record (supply : GrammarSupply ω γ) (language : String) (s : LoadState ω) : LoadState ω :=
  let (cache, fresh) := s.cache.add supply.scope language
  let s := { s with cache }
  if fresh then s.note (.report (.languageLoaded language)) else s

/-- Reports a language that could not be loaded. -/
def warn (language : String) (failure : Failure) (s : LoadState ω) : LoadState ω :=
  s.note (.report (.warning ("Failed to load language " ++ language) (some failure)))

/-- Loading a language is an attempt and what follows from it. -/
theorem loadOne_eq (supply : GrammarSupply ω γ) (language : String) (s : LoadState ω) :
    (s.loadOne supply language).2 =
      if s.cache.isLoaded supply.scope language then s
      else match s.attempt supply language with
        | (.error failure, s) => s.warn language failure
        | (.ok false, s) => s
        | (.ok true, s) => s.record supply language := by
  rw [loadOne]
  split
  · rfl
  · cases s.attempt supply language with
    | mk result t =>
      cases result with
      | error failure => rfl
      | ok done => cases done <;> rfl

end LoadState

namespace RunState

variable {ω : Type}

/-- What loading changes of a run. -/
def loadState (s : RunState ω) : LoadState ω := ⟨s.world, s.context.languages, s.trace⟩

/-- The run as loading leaves it. -/
def withLoad (s : RunState ω) (t : LoadState ω) : RunState ω :=
  { s with world := t.world, context := { s.context with languages := t.cache }, trace := t.trace }

end RunState

namespace Highlighter

variable {ω γ : Type}

/-- The actions of a run below `root`: each leads from a phase and a state to the next ones. -/
inductive Acts (h : Highlighter ω γ) (root : NodeId) :
    Phase × RunState ω → Phase × RunState ω → Prop where
  /-- The hook fails. -/
  | refused (s : RunState ω) (failure : Failure) (hook : (h.runHook s).1 = .error failure) :
      Acts h root (.waiting, s) (.ended (.error failure), (h.runHook s).2)
  /-- The hook passes, and there is no block. -/
  | idle (s : RunState ω) (hook : (h.runHook s).1 = .ok ()) (hd : discover s.store root = []) :
      Acts h root (.waiting, s) (.ended (.ok ()), (h.runHook s).2)
  /-- The hook passes, and there are blocks. -/
  | hooked (s : RunState ω) (hook : (h.runHook s).1 = .ok ()) (hd : discover s.store root ≠ []) :
      Acts h root (.waiting, s)
        (.loading (Language.distinct (Language.collect s.store root)), (h.runHook s).2)
  /-- The memory holds the next language. -/
  | skipped (s : RunState ω) (l : String) (ls : List String)
      (hl : s.context.languages.isLoaded h.supply.scope l = true) :
      Acts h root (.loading (l :: ls), s) (.loading ls, s)
  /-- The next language cannot be loaded. -/
  | warned (s : RunState ω) (l : String) (ls : List String) (failure : Failure)
      (hl : s.context.languages.isLoaded h.supply.scope l = false)
      (ha : (s.loadState.attempt h.supply l).1 = .error failure) :
      Acts h root (.loading (l :: ls), s)
        (.loading ls, s.withLoad ((s.loadState.attempt h.supply l).2.warn l failure))
  /-- The next language is unknown. -/
  | unknown (s : RunState ω) (l : String) (ls : List String)
      (hl : s.context.languages.isLoaded h.supply.scope l = false)
      (ha : (s.loadState.attempt h.supply l).1 = .ok false) :
      Acts h root (.loading (l :: ls), s)
        (.loading ls, s.withLoad (s.loadState.attempt h.supply l).2)
  /-- The grammar of the next language is registered. -/
  | registered (s : RunState ω) (l : String) (ls : List String)
      (hl : s.context.languages.isLoaded h.supply.scope l = false)
      (ha : (s.loadState.attempt h.supply l).1 = .ok true) :
      Acts h root (.loading (l :: ls), s)
        (.recording l ls, s.withLoad (s.loadState.attempt h.supply l).2)
  /-- A registered language is recorded. -/
  | recorded (s : RunState ω) (l : String) (ls : List String) :
      Acts h root (.recording l ls, s) (.loading ls, s.withLoad (s.loadState.record h.supply l))
  /-- All languages had their chance. -/
  | loaded (s : RunState ω) :
      Acts h root (.loading [], s) (.rendering (inOrder (discover s.store root)) 0 0, s)
  /-- The next block gives way to its bundle. -/
  | converted (s : RunState ω) (block : NodeId × Slot) (rest : List (NodeId × Slot)) (c f : Nat)
      (hp : (h.process block s).1 = true) :
      Acts h root (.rendering (block :: rest) c f, s)
        (.rendering rest (c + 1) f, (h.process block s).2)
  /-- The next block stays. -/
  | failed (s : RunState ω) (block : NodeId × Slot) (rest : List (NodeId × Slot)) (c f : Nat)
      (hp : (h.process block s).1 = false) :
      Acts h root (.rendering (block :: rest) c f, s)
        (.rendering rest c (f + 1), (h.process block s).2)
  /-- All blocks had their turns. -/
  | summed (s : RunState ω) (c f : Nat) :
      Acts h root (.rendering [] c f, s)
        (.ended (.ok ()), s.note (.report (.blocksHighlighted c f)))

/-- Actions one after the other, with none of another run between them. -/
abbrev Leads (h : Highlighter ω γ) (root : NodeId) :
    Phase × RunState ω → Phase × RunState ω → Prop :=
  Relation.ReflTransGen (h.Acts root)

/-- A language is loaded in one action or two. -/
theorem leads_loadOne (h : Highlighter ω γ) (root : NodeId) (s : RunState ω) (l : String)
    (ls : List String) :
    h.Leads root (.loading (l :: ls), s)
      (.loading ls, s.withLoad (s.loadState.loadOne h.supply l).2) := by
  rw [LoadState.loadOne_eq]
  cases hl : s.loadState.cache.isLoaded h.supply.scope l with
  | true => exact .single (.skipped s l ls hl)
  | false =>
    rw [if_neg Bool.false_ne_true]
    cases ha : s.loadState.attempt h.supply l with
    | mk result t =>
      have ht : t = (s.loadState.attempt h.supply l).2 := by rw [ha]
      have hresult := congrArg Prod.fst ha
      subst t
      cases result with
      | error failure => exact .single (.warned s l ls failure hl hresult)
      | ok done =>
        cases done with
        | false => exact .single (.unknown s l ls hl hresult)
        | true => exact .tail (.single (.registered s l ls hl hresult)) (.recorded _ l ls)

/-- Languages are loaded one after the other. -/
theorem leads_loadAll (h : Highlighter ω γ) (root : NodeId) (s : RunState ω) (ls : List String) :
    h.Leads root (.loading ls, s)
      (.loading [], s.withLoad (s.loadState.loadAll h.supply ls).2) := by
  induction ls generalizing s with
  | nil => exact .refl
  | cons l rest ih => exact (h.leads_loadOne root s l rest).trans (ih _)

/-- Blocks have their turns one after the other, and the counts add up. -/
theorem leads_processAll (h : Highlighter ω γ) (root : NodeId) (s : RunState ω)
    (blocks : List (NodeId × Slot)) (c f : Nat) :
    h.Leads root (.rendering blocks c f, s)
      (.rendering [] (c + (h.processAll blocks s).1.1) (f + (h.processAll blocks s).1.2),
        (h.processAll blocks s).2) := by
  induction blocks generalizing s c f with
  | nil => exact .refl
  | cons block rest ih =>
    rw [processAll_cons]
    cases hp : (h.process block s).1 with
    | true =>
      have hrest := ih (h.process block s).2 (c + 1) f
      rw [Nat.add_right_comm] at hrest
      exact .head (.converted s block rest c f hp) hrest
    | false =>
      have hrest := ih (h.process block s).2 c (f + 1)
      rw [Nat.add_right_comm f] at hrest
      exact .head (.failed s block rest c f hp) hrest

/-- A run that nobody disturbs ends as `transform` does. -/
theorem leads_transform (h : Highlighter ω γ) (root : NodeId) (s : RunState ω) :
    h.Leads root (.waiting, s) (.ended (h.transform root s).1, (h.transform root s).2) := by
  cases hook : (h.runHook s).1 with
  | error failure =>
    rw [transform_of_hook_error h root s failure hook]
    exact .single (.refused s failure hook)
  | ok done =>
    by_cases hd : discover s.store root = []
    · rw [transform_of_no_blocks h root s hook hd]
      exact .single (.idle s hook hd)
    · have hstore := (runHook_frame h s).1
      have hloaded := (loadLanguages_frame h root (h.runHook s).2).1.trans hstore
      have hload := h.leads_loadAll root (h.runHook s).2
        (Language.distinct (Language.collect (h.runHook s).2.store root))
      have hturn : h.Acts root _ _ := .loaded (h.loadLanguages root (h.runHook s).2)
      have hrender := h.leads_processAll root (h.loadLanguages root (h.runHook s).2)
        (inOrder (discover s.store root)) 0 0
      have hstate : (h.runHook s).2.withLoad ((h.runHook s).2.loadState.loadAll h.supply
          (Language.distinct (Language.collect (h.runHook s).2.store root))).2 =
          h.loadLanguages root (h.runHook s).2 := rfl
      rw [hstate, hstore] at hload
      rw [hloaded] at hturn
      rw [Nat.zero_add, Nat.zero_add] at hrender
      rw [transform_of_hook h root s hook hd]
      exact .head (.hooked s hook hd) (hload.trans (.head hturn (hrender.tail (.summed _ _ _))))

end Highlighter

end CodeHighlight
