import CodeHighlight.Language.Loader

/-!
# Loading languages

The languages of a document are listed once each, and the memory holds what was added to it. Loading
a language adds one of five short rows of steps to the trace: none where the language is loaded
already, and else the call of the supplier with what came of it. Loading never calls the renderer.
-/

namespace CodeHighlight

namespace Language

private theorem go_of_nodup (seen languages : List String) (hn : languages.Nodup)
    (hd : ∀ l ∈ languages, l ∉ seen) : distinct.go seen languages = languages := by
  induction languages generalizing seen with
  | nil => rfl
  | cons l rest ih =>
    obtain ⟨hl, hrest⟩ := List.nodup_cons.mp hn
    have hseen : seen.contains l = false := by
      rw [List.contains_eq_mem]
      exact decide_eq_false (hd l List.mem_cons_self)
    rw [distinct.go, hseen, if_neg Bool.false_ne_true, ih (l :: seen) hrest]
    intro m hm hms
    rcases List.mem_cons.mp hms with rfl | hms
    · exact hl hm
    · exact hd m (List.mem_cons_of_mem _ hm) hms

/-- Values that differ stay as they are. -/
theorem distinct_of_nodup (languages : List String) (hn : languages.Nodup) :
    distinct languages = languages :=
  go_of_nodup [] languages hn fun _ _ => List.not_mem_nil

/-- What is listed behind values already seen differs from them and from each other. -/
theorem nodup_go (seen languages : List String) :
    (distinct.go seen languages).Nodup ∧ ∀ l ∈ distinct.go seen languages, l ∉ seen := by
  induction languages generalizing seen with
  | nil => exact ⟨List.nodup_nil, nofun⟩
  | cons l rest ih =>
    rw [distinct.go]
    by_cases hl : l ∈ seen
    · rw [List.contains_eq_mem, if_pos (decide_eq_true hl)]
      exact ih seen
    · rw [List.contains_eq_mem, if_neg (by simpa using hl)]
      obtain ⟨hn, hd⟩ := ih (l :: seen)
      constructor
      · exact List.nodup_cons.mpr ⟨fun hm => hd l hm List.mem_cons_self, hn⟩
      · intro m hm
        rcases List.mem_cons.mp hm with rfl | hm
        · exact hl
        · exact fun hs => hd m hm (List.mem_cons_of_mem _ hs)

private theorem mem_go (seen languages : List String) (l : String) (hl : l ∈ languages) :
    l ∈ seen ∨ l ∈ distinct.go seen languages := by
  induction languages generalizing seen with
  | nil => cases hl
  | cons first rest ih =>
    rw [distinct.go]
    by_cases hfirst : first ∈ seen
    · rw [List.contains_eq_mem, if_pos (decide_eq_true hfirst)]
      rcases List.mem_cons.mp hl with rfl | hl
      · exact .inl hfirst
      · exact ih seen hl
    · rw [List.contains_eq_mem, if_neg (by simpa using hfirst)]
      rcases List.mem_cons.mp hl with rfl | hl
      · exact .inr List.mem_cons_self
      · rcases ih (first :: seen) hl with hseen | hrest
        · rcases List.mem_cons.mp hseen with rfl | hseen
          · exact .inr List.mem_cons_self
          · exact .inl hseen
        · exact .inr (List.mem_cons_of_mem _ hrest)

/-- No value gets lost. -/
theorem mem_distinct (languages : List String) (l : String) (hl : l ∈ languages) :
    l ∈ distinct languages :=
  (mem_go [] languages l hl).resolve_left List.not_mem_nil

/-- Values that are listed once each differ. -/
theorem nodup_distinct (languages : List String) : (distinct languages).Nodup := (nodup_go [] _).1

/-- The languages of a document are listed once each. -/
theorem nodup_collect (s : Store) (root : NodeId) : (collect s root).Nodup := nodup_distinct _

end Language

namespace LanguageCache

/-- Behind an addition the language added is loaded, and what was loaded before. -/
theorem isLoaded_add_iff (c : LanguageCache) (scope scope' : Scope) (language l : String) :
    (c.add scope language).1.isLoaded scope' l = true ↔
      c.isLoaded scope' l = true ∨ scope' = scope ∧ l = language := by
  rw [add]
  split
  · rename_i hadded
    refine ⟨.inl, ?_⟩
    rintro (hl | ⟨rfl, rfl⟩)
    · exact hl
    · exact hadded
  · rw [isLoaded, isLoaded, List.contains_append, Bool.or_eq_true]
    simp

/-- A language is loaded once it is added, and others as before. -/
theorem isLoaded_add (c : LanguageCache) (scope : Scope) (language l : String) :
    (c.add scope language).1.isLoaded scope l = (c.isLoaded scope l || l == language) := by
  rw [Bool.eq_iff_iff, isLoaded_add_iff]
  simp

end LanguageCache

/-- The request of a step that calls the renderer. -/
def Step.request? : Step → Option RenderRequest
  | .render request => some request
  | _ => none

/-- The requests in a trace. -/
def requestsOf (trace : List Step) : List RenderRequest := trace.filterMap Step.request?

/-- The requests in a trace and in what comes behind it. -/
theorem requestsOf_append (first second : List Step) :
    requestsOf (first ++ second) = requestsOf first ++ requestsOf second := List.filterMap_append

/-- Other steps leave no request. -/
theorem requestsOf_quiet (trace : List Step) (step : Step) (h : step.request? = none) :
    requestsOf (trace ++ [step]) = requestsOf trace := by
  rw [requestsOf, List.filterMap_append, List.filterMap_cons_none h, List.filterMap_nil,
    List.append_nil, requestsOf]

/-- What loading a language adds to the trace. -/
inductive LoadSteps (language : String) : List Step → Prop where
  /-- The language is loaded already. -/
  | cached : LoadSteps language []
  /-- The supplier knows no grammar. -/
  | unknown : LoadSteps language [.fetch language, .unknownLanguage language]
  /-- The supplier fails to fetch the grammar. -/
  | unfetched (failure : Failure) : LoadSteps language [.fetch language,
      .report (.warning ("Failed to load language " ++ language) (some failure))]
  /-- The supplier fails to register the grammar. -/
  | unregistered (failure : Failure) : LoadSteps language [.fetch language, .register language,
      .report (.warning ("Failed to load language " ++ language) (some failure))]
  /-- The grammar is available. -/
  | loaded : LoadSteps language [.fetch language, .register language,
      .report (.languageLoaded language)]

/-- A language with the steps that loading it added. -/
abbrev Load := String × List Step

/-- Loading a language calls no renderer. -/
theorem LoadSteps.request?_eq_none (language : String) (steps : List Step)
    (h : LoadSteps language steps) (step : Step) (hs : step ∈ steps) : step.request? = none := by
  cases h with
  | cached => cases hs
  | unknown | unfetched | unregistered | loaded =>
    revert step
    simp [Step.request?]

namespace LoadState

variable {ω γ : Type}

/-- Loading one language adds one row of steps. -/
theorem exists_trace_loadOne (supply : GrammarSupply ω γ) (language : String) (s : LoadState ω) :
    ∃ steps, LoadSteps language steps ∧
      (s.loadOne supply language).2.trace = s.trace ++ steps := by
  by_cases hl : s.cache.isLoaded supply.scope language = true
  · refine ⟨[], .cached, ?_⟩
    rw [loadOne, if_pos hl, List.append_nil]
  · simp only [loadOne, if_neg hl, attempt, note]
    cases hf : supply.fetch language s.world with
    | mk fetched world =>
      cases fetched with
      | error failure => exact ⟨_, .unfetched failure, List.append_assoc _ _ _⟩
      | ok grammar? =>
        cases grammar? with
        | none => exact ⟨_, .unknown, List.append_assoc _ _ _⟩
        | some grammar =>
          cases hr : supply.register grammar world with
          | mk registered world' =>
            cases registered with
            | error failure =>
              refine ⟨_, .unregistered failure, ?_⟩
              simp only [hr, List.append_assoc]
              rfl
            | ok done =>
              refine ⟨_, .loaded, ?_⟩
              simp only [hr, LanguageCache.add, if_neg hl, List.append_assoc]
              rfl

/-- Loading languages adds one row of steps for each. -/
theorem exists_trace_loadAll (supply : GrammarSupply ω γ) (languages : List String)
    (s : LoadState ω) :
    ∃ loads : List Load, loads.map Prod.fst = languages ∧
      (∀ load ∈ loads, LoadSteps load.1 load.2) ∧
      (s.loadAll supply languages).2.trace = s.trace ++ loads.flatMap Prod.snd := by
  induction languages generalizing s with
  | nil => exact ⟨[], rfl, nofun, (List.append_nil _).symm⟩
  | cons language rest ih =>
    obtain ⟨steps, hsteps, hone⟩ := exists_trace_loadOne supply language s
    obtain ⟨loads, hlanguages, hloads, hall⟩ := ih (s.loadOne supply language).2
    refine ⟨(language, steps) :: loads, ?_, ?_, ?_⟩
    · rw [List.map_cons, hlanguages]
    · intro load hload
      rcases List.mem_cons.mp hload with rfl | hload
      · exact hsteps
      · exact hloads load hload
    · rw [loadAll]
      dsimp only
      rw [hall, hone, List.flatMap_cons, List.append_assoc]

/-- Loading calls no renderer. -/
theorem requestsOf_load (supply : GrammarSupply ω γ) (languages : List String) (s : LoadState ω) :
    requestsOf (s.load supply languages).2.trace = requestsOf s.trace := by
  obtain ⟨loads, -, hloads, htrace⟩ := exists_trace_loadAll supply (Language.distinct languages) s
  have hquiet : requestsOf (loads.flatMap Prod.snd) = [] := by
    apply List.filterMap_eq_nil_iff.mpr
    intro step hstep
    obtain ⟨load, hload, hs⟩ := List.mem_flatMap.mp hstep
    exact LoadSteps.request?_eq_none load.1 load.2 (hloads load hload) step hs
  rw [load, htrace, requestsOf, List.filterMap_append, ← requestsOf, ← requestsOf, hquiet,
    List.append_nil]

end LoadState

end CodeHighlight
