import CodeHighlight.Proofs.Language.Loader
import Mathlib.Data.List.Nodup
import Mathlib.Data.Set.Card

/-!
# The memory over many calls

A call of the loader asks the supplier for each language that the memory does not hold, once and in
the order of the list, and every language has an answer of its own. Loaders with different suppliers
and scopes may share one memory: it holds the pairs of scope and language that were loaded so far,
and none of them is asked for again.
-/

namespace CodeHighlight

namespace Language

-- The induction is on what is still to be listed; the values seen are those that stand before it.
private theorem pairwise_go (before seen languages : List String)
    (hseen : ∀ l, l ∈ seen ↔ l ∈ before) :
    (distinct.go seen languages).Pairwise fun l m =>
      (before ++ languages).idxOf l < (before ++ languages).idxOf m := by
  induction languages generalizing before seen with
  | nil => exact .nil
  | cons l rest ih =>
    have hrest : ∀ seen', (∀ m, m ∈ seen' ↔ m ∈ before ++ [l]) →
        (distinct.go seen' rest).Pairwise fun a b =>
          (before ++ l :: rest).idxOf a < (before ++ l :: rest).idxOf b := by
      intro seen' hseen'
      have hwhole : before ++ l :: rest = (before ++ [l]) ++ rest := by simp
      rw [hwhole]
      exact ih (before ++ [l]) seen' hseen'
    rw [distinct.go]
    by_cases hl : l ∈ seen
    · rw [List.contains_eq_mem, if_pos (decide_eq_true hl)]
      apply hrest
      intro m
      have hmem := (hseen l).mp hl
      simp only [hseen, List.mem_append, List.mem_singleton]
      constructor
      · exact .inl
      · rintro (hm | rfl)
        · exact hm
        · exact hmem
    · rw [List.contains_eq_mem, if_neg (by simpa using hl)]
      have hseen' : ∀ m, m ∈ l :: seen ↔ m ∈ before ++ [l] := by
        intro m
        simp [hseen, or_comm]
      refine List.pairwise_cons.mpr ⟨?_, hrest (l :: seen) hseen'⟩
      intro m hm
      have hlb : l ∉ before := fun h => hl ((hseen l).mpr h)
      have hnew := (nodup_go (l :: seen) rest).2 m hm
      rw [hseen', List.mem_append, List.mem_singleton, not_or] at hnew
      have hne : l ≠ m := fun e => hnew.2 e.symm
      rw [List.idxOf_append_of_notMem hlb, List.idxOf_append_of_notMem hnew.1,
        List.idxOf_cons_self, List.idxOf_cons_ne _ hne]
      omega

/-- Values that are listed once each stand in the order of their first occurrences. -/
theorem pairwise_distinct (languages : List String) :
    (distinct languages).Pairwise fun l m => languages.idxOf l < languages.idxOf m :=
  pairwise_go [] [] languages fun _ => Iff.rfl

end Language

/-- What came of asking a supplier for a language. -/
inductive LoadAnswer where
  /-- The supplier knows no grammar. -/
  | unknown
  /-- The supplier failed to fetch the grammar. -/
  | unfetched (failure : Failure)
  /-- The supplier failed to register the grammar. -/
  | unregistered (failure : Failure)
  /-- The grammar was fetched and registered. -/
  | loaded

namespace LoadAnswer

/-- The grammar was fetched and registered. -/
def isLoaded : LoadAnswer → Bool
  | .loaded => true
  | _ => false

/-- The failure of the supplier, if it failed. -/
def failure? : LoadAnswer → Option Failure
  | .unfetched failure | .unregistered failure => some failure
  | _ => none

/-- What is reported of a failure. -/
def warning (language : String) (failure : Failure) : Diagnostic :=
  .warning ("Failed to load language " ++ language) (some failure)

/-- The steps that asking for a language leaves in the trace. -/
def steps (language : String) : LoadAnswer → List Step
  | .unknown => [.fetch language, .unknownLanguage language]
  | .unfetched failure => [.fetch language, .report (warning language failure)]
  | .unregistered failure =>
    [.fetch language, .register language, .report (warning language failure)]
  | .loaded => [.fetch language, .register language, .report (.languageLoaded language)]

theorem isLoaded_iff (a : LoadAnswer) : a.isLoaded = true ↔ a = .loaded := by
  cases a <;> simp [isLoaded]

end LoadAnswer

namespace Step

/-- The language whose grammar the step asks for. -/
def fetched? : Step → Option String
  | .fetch language => some language
  | _ => none

/-- The language that the step announces as loaded. -/
def announced? : Step → Option String
  | .report (.event "language_loaded" [("language", .str language)]) => some language
  | _ => none

/-- The message and the failure of a warning. -/
def warned? : Step → Option (String × Option Failure)
  | .report (.warning message failure) => some (message, failure)
  | _ => none

/-- The step is about a language: it asks for it, registers it, announces it or warns of it. -/
def concerns (language : String) : Step → Bool
  | .fetch l | .unknownLanguage l | .register l => l = language
  | .report (.warning message _) => message = "Failed to load language " ++ language
  | .report (.event "language_loaded" [("language", .str l)]) => l = language
  | _ => false

end Step

namespace LoadAnswer

/-- Asking for a language fetches it once. -/
theorem filterMap_fetched? (language : String) (a : LoadAnswer) :
    (a.steps language).filterMap Step.fetched? = [language] := by
  cases a <;> rfl

/-- A language is announced once if it was loaded. -/
theorem filterMap_announced? (language : String) (a : LoadAnswer) :
    (a.steps language).filterMap Step.announced? = if a.isLoaded then [language] else [] := by
  cases a <;> rfl

/-- A failure is warned of once. -/
theorem filterMap_warned? (language : String) (a : LoadAnswer) :
    (a.steps language).filterMap Step.warned? =
      (a.failure?.map fun f => ("Failed to load language " ++ language, some f)).toList := by
  cases a <;> rfl

/-- The steps for a language concern no other. -/
theorem filter_concerns (language other : String) (a : LoadAnswer) :
    (a.steps language).filter (Step.concerns other) =
      if language = other then a.steps language else [] := by
  have happend : "Failed to load language " ++ language = "Failed to load language " ++ other ↔
      language = other := by
    simp [← String.toList_inj]
  cases a <;> by_cases h : language = other <;>
    simp [steps, warning, Step.concerns, Diagnostic.languageLoaded, happend, h]

end LoadAnswer

namespace GrammarSupply

variable {ω γ : Type}

/-- What a supplier makes of the request for a language, and the world that it leaves. -/
def answer (supply : GrammarSupply ω γ) (language : String) (w : ω) : LoadAnswer × ω :=
  match supply.fetch language w with
  | (.error failure, w) => (.unfetched failure, w)
  | (.ok none, w) => (.unknown, w)
  | (.ok (some grammar), w) =>
    match supply.register grammar w with
    | (.error failure, w) => (.unregistered failure, w)
    | (.ok (), w) => (.loaded, w)

/-- What a supplier makes of requests one after the other. -/
def answers (supply : GrammarSupply ω γ) : List String → ω → List (String × LoadAnswer) × ω
  | [], w => ([], w)
  | language :: rest, w =>
    let (a, w) := supply.answer language w
    let (others, w) := supply.answers rest w
    ((language, a) :: others, w)

/-- Every request has an answer. -/
theorem map_fst_answers (supply : GrammarSupply ω γ) (languages : List String) (w : ω) :
    (supply.answers languages w).1.map Prod.fst = languages := by
  induction languages generalizing w with
  | nil => rfl
  | cons language rest ih => simp [answers, ih]

end GrammarSupply

/-- The languages that were loaded, in the order of the requests. -/
def loadedOf (answers : List (String × LoadAnswer)) : List String :=
  (answers.filter fun a => a.2.isLoaded).map Prod.fst

namespace LoadState

variable {ω γ : Type}

/-- A language that the memory does not hold is asked for, and recorded if it was loaded. -/
theorem loadOne_of_missing (supply : GrammarSupply ω γ) (language : String) (s : LoadState ω)
    (h : s.cache.isLoaded supply.scope language = false) :
    s.loadOne supply language = ((supply.answer language s.world).1.isLoaded,
      { world := (supply.answer language s.world).2
        cache := if (supply.answer language s.world).1.isLoaded
          then (s.cache.add supply.scope language).1 else s.cache
        trace := s.trace ++ (supply.answer language s.world).1.steps language }) := by
  cases hf : supply.fetch language s.world with
  | mk fetched w =>
    cases fetched with
    | error failure =>
      have ha : supply.answer language s.world = (.unfetched failure, w) := by
        rw [GrammarSupply.answer, hf]
      simp [loadOne, attempt, note, h, hf, ha, LoadAnswer.isLoaded, LoadAnswer.steps,
        LoadAnswer.warning]
    | ok found =>
      cases found with
      | none =>
        have ha : supply.answer language s.world = (.unknown, w) := by
          rw [GrammarSupply.answer, hf]
        simp [loadOne, attempt, note, h, hf, ha, LoadAnswer.isLoaded, LoadAnswer.steps]
      | some grammar =>
        cases hr : supply.register grammar w with
        | mk registered w' =>
          cases registered with
          | error failure =>
            have ha : supply.answer language s.world = (.unregistered failure, w') := by
              simp only [GrammarSupply.answer, hf, hr]
            simp [loadOne, attempt, note, h, hf, hr, ha, LoadAnswer.isLoaded, LoadAnswer.steps,
              LoadAnswer.warning]
          | ok _ =>
            have ha : supply.answer language s.world = (.loaded, w') := by
              simp only [GrammarSupply.answer, hf, hr]
            simp [loadOne, attempt, note, LanguageCache.add, h, hf, hr, ha, LoadAnswer.isLoaded,
              LoadAnswer.steps]

/-- The languages of a list that the memory does not hold. -/
def missing (s : LoadState ω) (scope : Scope) (languages : List String) : List String :=
  languages.filter fun l => !s.cache.isLoaded scope l

/-- Languages that differ are loaded by asking for those that are missing. The induction is on the
languages: that they differ keeps the rest missing or not, whatever became of the first one. -/
theorem loadAll_eq (supply : GrammarSupply ω γ) (languages : List String) (s : LoadState ω)
    (hn : languages.Nodup) :
    let asked := supply.answers (s.missing supply.scope languages) s.world
    s.loadAll supply languages = (loadedOf asked.1,
      { world := asked.2
        cache := ⟨s.cache.entries ++ (loadedOf asked.1).map (supply.scope, ·)⟩
        trace := s.trace ++ asked.1.flatMap fun a => a.2.steps a.1 }) := by
  induction languages generalizing s with
  | nil => simp [missing, GrammarSupply.answers, loadAll, loadedOf]
  | cons l rest ih =>
    obtain ⟨hl, hrest⟩ := List.nodup_cons.mp hn
    rw [loadAll]
    cases hloaded : s.cache.isLoaded supply.scope l with
    | true =>
      have hone : s.loadOne supply l = (false, s) := by rw [loadOne, if_pos hloaded]
      have hsame : s.missing supply.scope (l :: rest) = s.missing supply.scope rest := by
        simp [missing, hloaded]
      have hall := ih s hrest
      simp only [hone, hsame, hall, Bool.false_eq_true, if_false]
    | false =>
      have hone := loadOne_of_missing supply l s hloaded
      have hadd : (s.cache.add supply.scope l).1 = ⟨s.cache.entries ++ [(supply.scope, l)]⟩ := by
        simp [LanguageCache.add, hloaded]
      have hlist : s.missing supply.scope (l :: rest) = l :: s.missing supply.scope rest := by
        simp [missing, hloaded]
      have hkept : (s.loadOne supply l).2.missing supply.scope rest =
          s.missing supply.scope rest := by
        apply List.filter_congr
        intro m hm
        have hne : m ≠ l := fun e => hl (e ▸ hm)
        rw [hone]
        dsimp only
        split
        · simp [LanguageCache.isLoaded_add, hne]
        · rfl
      have hall := ih (s.loadOne supply l).2 hrest
      dsimp only at hall ⊢
      rw [hkept] at hall
      rw [hall, hlist, hone]
      dsimp only [GrammarSupply.answers]
      cases hanswer : (supply.answer l s.world).1.isLoaded with
      | true => simp [loadedOf, hanswer, hadd]
      | false => simp [loadedOf, hanswer]

end LoadState

/-- A call of a loader: the supplier and the languages that are to be loaded. -/
structure LoadCall (ω : Type) where
  {γ : Type}
  supply : GrammarSupply ω γ
  languages : List String

/-- The turn of a call: the call and the state in which it begins. -/
structure LoadTurn (ω : Type) where
  call : LoadCall ω
  state : LoadState ω

namespace LoadTurn

variable {ω : Type}

/-- Where the supplier registers grammars. -/
def scope (t : LoadTurn ω) : Scope := t.call.supply.scope

/-- The state that a turn leaves. -/
def next (t : LoadTurn ω) : LoadState ω := (t.state.load t.call.supply t.call.languages).2

/-- The languages that the call gives back. -/
def returned (t : LoadTurn ω) : List String := (t.state.load t.call.supply t.call.languages).1

/-- What a turn adds to the trace. -/
def steps (t : LoadTurn ω) : List Step := t.next.trace.drop t.state.trace.length

/-- The languages that the supplier is asked for. -/
def missing (t : LoadTurn ω) : List String :=
  t.state.missing t.scope (Language.distinct t.call.languages)

/-- What the supplier makes of each request. -/
def answers (t : LoadTurn ω) : List (String × LoadAnswer) :=
  (t.call.supply.answers t.missing t.state.world).1

/-- The pairs of scope and language that are fetched and registered. -/
def loaded (t : LoadTurn ω) : List (Scope × String) := (loadedOf t.answers).map (t.scope, ·)

theorem map_fst_answers (t : LoadTurn ω) : t.answers.map Prod.fst = t.missing :=
  t.call.supply.map_fst_answers _ _

/-- What is answered was missing. -/
theorem mem_missing_of_mem_answers (t : LoadTurn ω) (l : String) (a : LoadAnswer)
    (h : (l, a) ∈ t.answers) : l ∈ t.missing := by
  rw [← map_fst_answers]
  exact List.mem_map_of_mem h

theorem nodup_missing (t : LoadTurn ω) : t.missing.Nodup :=
  (Language.nodup_distinct _).filter _

private theorem load_eq (t : LoadTurn ω) :
    t.state.load t.call.supply t.call.languages = (loadedOf t.answers,
      { world := (t.call.supply.answers t.missing t.state.world).2
        cache := ⟨t.state.cache.entries ++ t.loaded⟩
        trace := t.state.trace ++ t.answers.flatMap fun a => a.2.steps a.1 }) :=
  LoadState.loadAll_eq t.call.supply _ t.state (Language.nodup_distinct _)

/-- A call gives back the languages that it loaded. -/
theorem returned_eq (t : LoadTurn ω) : t.returned = loadedOf t.answers := by
  rw [returned, load_eq]

/-- The memory grows by the pairs that were loaded. -/
theorem entries_next (t : LoadTurn ω) :
    t.next.cache.entries = t.state.cache.entries ++ t.loaded := by
  rw [next, load_eq]

/-- The world is the one that the requests leave. -/
theorem world_next (t : LoadTurn ω) :
    t.next.world = (t.call.supply.answers t.missing t.state.world).2 := by
  rw [next, load_eq]

/-- A turn adds the steps for each request. -/
theorem steps_eq (t : LoadTurn ω) : t.steps = t.answers.flatMap fun a => a.2.steps a.1 := by
  rw [steps, next, load_eq, List.drop_left]

theorem mem_loadedOf (t : LoadTurn ω) (l : String) :
    l ∈ loadedOf t.answers ↔ (l, .loaded) ∈ t.answers := by
  simp [loadedOf, LoadAnswer.isLoaded_iff]

theorem mem_loaded (t : LoadTurn ω) (scope : Scope) (l : String) :
    (scope, l) ∈ t.loaded ↔ t.scope = scope ∧ (l, .loaded) ∈ t.answers := by
  simp only [loaded, List.mem_map, Prod.mk.injEq, mem_loadedOf]
  constructor
  · rintro ⟨m, hm, hscope, rfl⟩
    exact ⟨hscope, hm⟩
  · rintro ⟨hscope, hl⟩
    exact ⟨l, hl, hscope, rfl⟩

/-- A language that is asked for is not held by the memory. -/
theorem not_mem_entries (t : LoadTurn ω) (l : String) (h : l ∈ t.missing) :
    (t.scope, l) ∉ t.state.cache.entries := by
  have hnot := (List.mem_filter.mp h).2
  simpa [LanguageCache.isLoaded] using hnot

/-- The pairs in the memory stay different. -/
theorem nodup_next (t : LoadTurn ω) (h : t.state.cache.entries.Nodup) :
    t.next.cache.entries.Nodup := by
  have hsub : (loadedOf t.answers).Sublist t.missing := by
    rw [← map_fst_answers]
    exact List.filter_sublist.map _
  have hloaded : t.loaded.Nodup :=
    (hsub.nodup t.nodup_missing).map fun _ _ he => (Prod.mk.inj he).2
  rw [entries_next]
  apply h.append hloaded
  rintro ⟨scope, l⟩ hold hnew
  obtain ⟨m, hm, he⟩ := List.mem_map.mp hnew
  rw [← he] at hold
  exact t.not_mem_entries m (hsub.subset hm) hold

end LoadTurn

namespace LoadCall

variable {ω : Type}

/-- The turns of calls that are made one after the other. -/
def turns : List (LoadCall ω) → LoadState ω → List (LoadTurn ω)
  | [], _ => []
  | call :: rest, s => ⟨call, s⟩ :: turns rest (LoadTurn.next ⟨call, s⟩)

/-- Before a turn the memory holds what the turns before it loaded. -/
theorem entries_of_turns (calls : List (LoadCall ω)) (s : LoadState ω)
    (earlier : List (LoadTurn ω)) (t : LoadTurn ω) (later : List (LoadTurn ω))
    (h : turns calls s = earlier ++ t :: later) :
    t.state.cache.entries = s.cache.entries ++ earlier.flatMap LoadTurn.loaded := by
  induction earlier generalizing calls s with
  | nil =>
    cases calls with
    | nil => cases h
    | cons call rest =>
      rw [turns, List.nil_append, List.cons.injEq] at h
      rw [← h.1]
      simp
  | cons first earlier ih =>
    cases calls with
    | nil => cases h
    | cons call rest =>
      rw [turns, List.cons_append, List.cons.injEq] at h
      obtain ⟨rfl, hrest⟩ := h
      rw [ih rest _ hrest, LoadTurn.entries_next]
      simp

/-- What is loaded over all turns differs. -/
theorem nodup_turns (calls : List (LoadCall ω)) (s : LoadState ω) (h : s.cache.entries.Nodup) :
    (s.cache.entries ++ (turns calls s).flatMap LoadTurn.loaded).Nodup := by
  induction calls generalizing s with
  | nil => simpa [turns] using h
  | cons call rest ih =>
    have hrest := ih (LoadTurn.next ⟨call, s⟩) (LoadTurn.nodup_next ⟨call, s⟩ h)
    rw [LoadTurn.entries_next] at hrest
    simpa [turns] using hrest

end LoadCall

/-- Of pairs with different first parts only one has a given first part. -/
private theorem flatMap_own {β : Type} (answers : List (String × LoadAnswer))
    (hn : (answers.map Prod.fst).Nodup) (l : String) (a : LoadAnswer) (h : (l, a) ∈ answers)
    (f : String × LoadAnswer → List β) :
    answers.flatMap (fun b => if b.1 = l then f b else []) = f (l, a) := by
  induction answers with
  | nil => cases h
  | cons b rest ih =>
    obtain ⟨hb, hrest⟩ := List.nodup_cons.mp hn
    rw [List.flatMap_cons]
    rcases List.mem_cons.mp h with rfl | hmem
    · have hothers : rest.flatMap (fun b => if b.1 = l then f b else []) = [] := by
        apply List.flatMap_eq_nil_iff.mpr
        intro c hc
        have hne : c.1 ≠ l := fun e => hb (List.mem_map.mpr ⟨c, hc, e⟩)
        exact if_neg hne
      rw [hothers, if_pos rfl, List.append_nil]
    · have hne : b.1 ≠ l := fun e => hb (List.mem_map.mpr ⟨(l, a), hmem, e.symm⟩)
      rw [if_neg hne, ih hrest hmem, List.nil_append]

namespace LoadTurn

variable {ω : Type}

/-- The answer for a language decides alone what becomes of it: whether the call gives it back,
whether the memory holds it, and which steps concern it. -/
theorem own_answer (t : LoadTurn ω) (l : String) (a : LoadAnswer) (h : (l, a) ∈ t.answers) :
    (l ∈ t.returned ↔ a = .loaded) ∧
      (t.next.cache.isLoaded t.scope l = true ↔ a = .loaded) ∧
      t.steps.filter (Step.concerns l) = a.steps l := by
  have hn : (t.answers.map Prod.fst).Nodup := by
    rw [map_fst_answers]
    exact t.nodup_missing
  have hown : (l, .loaded) ∈ t.answers ↔ a = .loaded := by
    constructor
    · intro hloaded
      exact congrArg Prod.snd (List.inj_on_of_nodup_map hn h hloaded rfl)
    · rintro rfl
      exact h
  have hmissing := t.mem_missing_of_mem_answers l a h
  refine ⟨?_, ?_, ?_⟩
  · rw [returned_eq, mem_loadedOf, hown]
  · have hnot := t.not_mem_entries l hmissing
    rw [LanguageCache.isLoaded, entries_next, List.contains_iff_mem, List.mem_append, mem_loaded,
      hown]
    simp [hnot]
  · rw [steps_eq, List.filter_flatMap]
    simp only [LoadAnswer.filter_concerns]
    exact flatMap_own t.answers hn l a h fun b => b.2.steps b.1

/-- What the steps of a turn show is what those for each request show. -/
private theorem filterMap_steps {β : Type} (t : LoadTurn ω) (view : Step → Option β)
    (shown : String → LoadAnswer → List β)
    (h : ∀ l a, (LoadAnswer.steps l a).filterMap view = shown l a) :
    t.steps.filterMap view = t.answers.flatMap fun a => shown a.1 a.2 := by
  rw [steps_eq, List.filterMap_flatMap]
  simp only [h]

/-- The supplier fetches the missing languages. -/
theorem fetched_eq (t : LoadTurn ω) : t.steps.filterMap Step.fetched? = t.missing := by
  rw [t.filterMap_steps _ _ LoadAnswer.filterMap_fetched?, ← map_fst_answers, List.map_eq_flatMap]

/-- The languages announced are those that were loaded. -/
theorem announced_eq (t : LoadTurn ω) :
    t.steps.filterMap Step.announced? = loadedOf t.answers := by
  rw [t.filterMap_steps _ _ LoadAnswer.filterMap_announced?, loadedOf,
    ← List.filterMap_eq_map', List.filterMap_filter, List.filterMap_eq_flatMap_toList]
  congr 1
  funext a
  cases ha : a.2.isLoaded <;> simp

/-- The warnings are those of the requests that failed. -/
theorem warned_eq (t : LoadTurn ω) :
    t.steps.filterMap Step.warned? = t.answers.filterMap fun a =>
      a.2.failure?.map fun f => ("Failed to load language " ++ a.1, some f) := by
  rw [t.filterMap_steps _ _ LoadAnswer.filterMap_warned?, List.filterMap_eq_flatMap_toList]

/-- Only missing languages are fetched. -/
theorem mem_missing_of_fetch (t : LoadTurn ω) (l : String) (h : .fetch l ∈ t.steps) :
    l ∈ t.missing := by
  rw [← fetched_eq]
  exact List.mem_filterMap.mpr ⟨.fetch l, h, rfl⟩

/-- The pairs of other scopes stay. -/
theorem languages_next (t : LoadTurn ω) (scope : Scope) (h : scope ≠ t.scope) :
    t.next.cache.languages scope = t.state.cache.languages scope := by
  have hnone : t.loaded.filter (fun e => e.1 = scope) = [] := by
    apply List.filter_eq_nil_iff.mpr
    rintro ⟨scope', l⟩ he
    obtain ⟨m, -, he⟩ := List.mem_map.mp he
    cases he
    simpa using fun e => h e.symm
  rw [LanguageCache.languages, entries_next, List.filter_append, hnone, List.append_nil,
    LanguageCache.languages]

end LoadTurn

/-- A memory without repetitions has as many entries as it holds pairs. -/
theorem LanguageCache.size_eq_ncard (c : LanguageCache) (h : c.entries.Nodup) :
    c.size = {p : Scope × String | c.isLoaded p.1 p.2 = true}.ncard := by
  have hset : {p : Scope × String | c.isLoaded p.1 p.2 = true} = ↑c.entries.toFinset := by
    ext p
    simp [isLoaded]
  rw [hset, Set.ncard_coe_finset, List.toFinset_card_of_nodup h, size]

namespace LoadTurn

variable {ω : Type}

/-- What a memory that was empty at first tells of a turn, of those before it and of those after. -/
structure Remembered (earlier : List (LoadTurn ω)) (t : LoadTurn ω) (later : List (LoadTurn ω)) :
    Prop where
  /-- The supplier is asked for what is missing, and its answers are those of its own functions in
  the worlds that one request leaves to the next. -/
  asked : t.answers.map Prod.fst = t.missing ∧
    t.next.world = (t.call.supply.answers t.missing t.state.world).2
  /-- The memory holds the pairs that some call so far fetched and registered, and no others. -/
  holds : ∀ scope l, t.next.cache.isLoaded scope l = true ↔
    ∃ u ∈ earlier ++ [t], u.scope = scope ∧ (l, .loaded) ∈ u.answers
  /-- The size of the memory is the number of its pairs. -/
  size : t.next.cache.size =
    {p : Scope × String | t.next.cache.isLoaded p.1 p.2 = true}.ncard
  /-- A call gives back and announces what it loads. -/
  told : t.returned = loadedOf t.answers ∧
    t.steps.filterMap Step.announced? = loadedOf t.answers
  /-- No pair is loaded twice in all calls. -/
  once : ((earlier ++ t :: later).flatMap loaded).Nodup
  /-- What is loaded is not fetched again. -/
  settled : ∀ l, (l, .loaded) ∈ t.answers → ∀ u ∈ later, u.scope = t.scope → .fetch l ∉ u.steps
  /-- The fetches are those of the missing languages, each at most once and in the order of the
  first occurrences in the list. -/
  fetched : t.steps.filterMap Step.fetched? = t.missing ∧
    t.missing.Pairwise fun l m => t.call.languages.idxOf l < t.call.languages.idxOf m
  /-- Each failure is warned of once, with the name of its language. -/
  warned : t.steps.filterMap Step.warned? = t.answers.filterMap fun a =>
    a.2.failure?.map fun f => ("Failed to load language " ++ a.1, some f)
  /-- What becomes of a language depends on the answer for it alone. -/
  own : ∀ l a, (l, a) ∈ t.answers → (l ∈ t.returned ↔ a = .loaded) ∧
    (t.next.cache.isLoaded t.scope l = true ↔ a = .loaded) ∧
    t.steps.filter (Step.concerns l) = a.steps l
  /-- Other scopes stay as they are. -/
  others : ∀ scope, scope ≠ t.scope → t.next.cache.languages scope = t.state.cache.languages scope

/-- Whatever suppliers answer: after every call the memory holds what was loaded so far, nothing is
loaded, announced or given back twice, nothing is fetched again once it was loaded, and the answer
for one language leaves all others and all other scopes alone. -/
theorem remembered_of_calls (calls : List (LoadCall ω)) (w : ω) (earlier : List (LoadTurn ω))
    (t : LoadTurn ω) (later : List (LoadTurn ω))
    (h : LoadCall.turns calls ⟨w, {}, []⟩ = earlier ++ t :: later) :
    Remembered earlier t later := by
  have hbefore := LoadCall.entries_of_turns calls _ earlier t later h
  have hafter : t.next.cache.entries = (earlier ++ [t]).flatMap loaded := by
    rw [entries_next, hbefore]
    simp
  have honce := LoadCall.nodup_turns calls ⟨w, {}, []⟩ .nil
  rw [h, List.nil_append] at honce
  have hnodup : t.next.cache.entries.Nodup := by
    rw [List.append_cons, List.flatMap_append] at honce
    rw [hafter]
    exact honce.of_append_left
  constructor
  case asked => exact ⟨t.map_fst_answers, t.world_next⟩
  case holds =>
    intro scope l
    rw [LanguageCache.isLoaded, List.contains_iff_mem, hafter, List.mem_flatMap]
    simp only [mem_loaded]
  case size => exact t.next.cache.size_eq_ncard hnodup
  case told => exact ⟨t.returned_eq, t.announced_eq⟩
  case once => exact honce
  case settled =>
    intro l hl u hu hscope hfetch
    obtain ⟨front, back, rfl⟩ := List.append_of_mem hu
    have hwhole : LoadCall.turns calls ⟨w, {}, []⟩ = (earlier ++ t :: front) ++ u :: back := by
      simp [h]
    have hheld := LoadCall.entries_of_turns calls _ _ u back hwhole
    have hloaded : (t.scope, l) ∈ t.loaded := (t.mem_loaded _ _).mpr ⟨rfl, hl⟩
    apply u.not_mem_entries l (u.mem_missing_of_fetch l hfetch)
    rw [hheld, hscope]
    simp [hloaded]
  case fetched => exact ⟨t.fetched_eq, (Language.pairwise_distinct _).filter _⟩
  case warned => exact t.warned_eq
  case own => exact t.own_answer
  case others => exact t.languages_next

/-- A supplier that is offline for its first request and then has a grammar for every language. -/
def hesitant (scope : Scope) : GrammarSupply Nat Unit where
  scope := scope
  fetch language := fun requests =>
    if requests = 0 then (.error (.plain .connection ("offline: " ++ language)), 1)
    else (.ok (some ()), requests + 1)
  register _ := fun requests => (.ok (), requests)

/-- Three calls of two loaders that share a memory. -/
def sharedCalls : List (LoadCall Nat) := [
  ⟨hesitant (.named "a"), ["ada", "python", "ada"]⟩,
  ⟨hesitant (.named "a"), ["python", "ada"]⟩,
  ⟨hesitant (.named "b"), ["python"]⟩]

/-- The second call fetches only what failed in the first one, and the third one loads into another
scope. -/
theorem remembered_sharedCalls : ∃ earlier t later,
    LoadCall.turns sharedCalls ⟨0, {}, []⟩ = earlier ++ t :: later ∧
      t.steps.filterMap Step.fetched? = ["ada"] ∧
      t.next.cache.entries = [(.named "a", "python"), (.named "a", "ada")] ∧
      Remembered earlier t later := by
  refine ⟨[_], _, [_], rfl, ?_, ?_, remembered_of_calls sharedCalls 0 _ _ _ rfl⟩
  · decide +kernel
  · decide +kernel

end LoadTurn

end CodeHighlight
