import CodeHighlight.Proofs.Language.Memory

/-!
# Plain text among the languages

Plain text and the empty tag need no grammar. The languages of a document hold neither, so what is
loaded for a document passes them over. The loader itself makes no difference: it asks the supplier
for every language of its list that the memory does not hold, whatever the language is.
-/

namespace CodeHighlight

namespace Language

/-- The language needs no grammar: it is plain text, or no language at all. -/
def isPlain (language : String) : Bool := language = plainText || language = ""

private theorem mem_of_mem_go (seen languages : List String) (l : String)
    (h : l ∈ distinct.go seen languages) : l ∈ languages := by
  induction languages generalizing seen with
  | nil => cases h
  | cons first rest ih =>
    rw [distinct.go] at h
    split at h
    · exact List.mem_cons_of_mem _ (ih seen h)
    · rcases List.mem_cons.mp h with rfl | h
      · exact List.mem_cons_self
      · exact List.mem_cons_of_mem _ (ih _ h)

/-- Values are listed once each, and no others are. -/
theorem mem_distinct_iff (languages : List String) (l : String) :
    l ∈ distinct languages ↔ l ∈ languages :=
  ⟨mem_of_mem_go [] languages l, mem_distinct languages l⟩

private theorem normalize_ne_empty (tag : Option String) : normalize tag ≠ "" := by
  unfold normalize
  dsimp only
  split
  · decide
  · assumption

/-- The languages of a document need a grammar. -/
theorem isPlain_of_mem_collect (s : Store) (root : NodeId) (l : String)
    (h : l ∈ collect s root) : isPlain l = false := by
  obtain ⟨hmem, hplain⟩ := List.mem_filter.mp ((mem_distinct_iff _ l).mp h)
  obtain ⟨v, -, rfl⟩ := List.mem_map.mp hmem
  have hne : normalize (s.get v.node).language ≠ plainText := by simpa using hplain
  simp [isPlain, hne, normalize_ne_empty]

end Language

namespace LoadTurn

open CodeHighlight.Language (isPlain)

variable {ω : Type}

/-- The languages that are missing are those of the list that the memory does not hold. -/
theorem mem_missing_iff (t : LoadTurn ω) (l : String) : l ∈ t.missing ↔
    l ∈ t.call.languages ∧ t.state.cache.isLoaded t.scope l = false := by
  rw [missing, LoadState.missing, List.mem_filter, Language.mem_distinct_iff, Bool.not_eq_true']

/-- No step of a turn concerns a language that is not missing. -/
theorem filter_concerns_of_not_mem (t : LoadTurn ω) (l : String) (h : l ∉ t.missing) :
    t.steps.filter (Step.concerns l) = [] := by
  rw [steps_eq, List.filter_flatMap, List.flatMap_eq_nil_iff]
  rintro ⟨other, answer⟩ hanswer
  have hother : other ≠ l := by
    rintro rfl
    exact h (t.mem_missing_of_mem_answers other answer hanswer)
  rw [LoadAnswer.filter_concerns, if_neg hother]

/-- A language that is not missing is not given back. -/
theorem not_mem_returned (t : LoadTurn ω) (l : String) (h : l ∉ t.missing) : l ∉ t.returned := by
  rw [returned_eq, mem_loadedOf]
  exact fun hloaded => h (t.mem_missing_of_mem_answers l .loaded hloaded)

/-- The memory holds a language that is not missing where it held it before. -/
theorem isLoaded_next_of_not_mem (t : LoadTurn ω) (scope : Scope) (l : String)
    (h : l ∉ t.missing) :
    t.next.cache.isLoaded scope l = t.state.cache.isLoaded scope l := by
  have hnew : (scope, l) ∉ t.loaded := by
    rw [mem_loaded, ← mem_loadedOf, ← returned_eq]
    exact fun hloaded => t.not_mem_returned l h hloaded.2
  rw [Bool.eq_iff_iff, LanguageCache.isLoaded, LanguageCache.isLoaded, List.contains_iff_mem,
    List.contains_iff_mem, entries_next, List.mem_append]
  simp [hnew]

/-- A turn that passes over the languages that need no grammar. -/
structure PassesPlain (t : LoadTurn ω) : Prop where
  /-- The supplier is asked for the others that are missing, once each. -/
  fetched : t.steps.filterMap Step.fetched? = t.missing.filter fun l => !isPlain l
  /-- A language that needs no grammar is not asked for, registered, warned of or announced. -/
  silent : ∀ l, isPlain l = true → t.steps.filter (Step.concerns l) = []
  /-- It is not given back. -/
  kept : ∀ l, isPlain l = true → l ∉ t.returned
  /-- It is not recorded. -/
  unrecorded : ∀ scope l, isPlain l = true →
    t.next.cache.isLoaded scope l = t.state.cache.isLoaded scope l

/-- A turn passes over plain text if and only if none is missing. -/
theorem passesPlain_iff (t : LoadTurn ω) :
    t.PassesPlain ↔ ∀ l ∈ t.missing, isPlain l = false := by
  constructor
  · intro hpasses l hl
    rw [← fetched_eq, hpasses.fetched] at hl
    simpa using (List.mem_filter.mp hl).2
  · intro h
    have hplain : ∀ l, isPlain l = true → l ∉ t.missing := by
      intro l hl hmem
      rw [h l hmem] at hl
      cases hl
    constructor
    · rw [fetched_eq, List.filter_eq_self.mpr]
      intro l hl
      rw [h l hl, Bool.not_false]
    · exact fun l hl => t.filter_concerns_of_not_mem l (hplain l hl)
    · exact fun l hl => t.not_mem_returned l (hplain l hl)
    · exact fun scope l hl => t.isLoaded_next_of_not_mem scope l (hplain l hl)

/-- What a turn asks for. -/
structure Asks (t : LoadTurn ω) : Prop where
  /-- The supplier is asked for the missing languages. -/
  fetched : t.steps.filterMap Step.fetched? = t.missing
  /-- These are the languages of the list that the memory does not hold in the scope. -/
  mem_missing : ∀ l, l ∈ t.missing ↔
    l ∈ t.call.languages ∧ t.state.cache.isLoaded t.scope l = false
  /-- Each of them is missing once, in the order of the first occurrences. -/
  ordered : t.missing.Nodup ∧
    t.missing.Pairwise fun l m => t.call.languages.idxOf l < t.call.languages.idxOf m
  /-- Plain text and the empty tag are passed over if and only if the memory holds those in the
  list. -/
  plain : t.PassesPlain ↔
    ∀ l ∈ t.call.languages, isPlain l = true → t.state.cache.isLoaded t.scope l = true

/-- A call of the loader asks for every language of its list that is not loaded; a call for the
languages of a document passes over plain text. -/
theorem asks_for_missing :
    (∀ t : LoadTurn ω, t.Asks) ∧
    ∀ {γ : Type} (supply : GrammarSupply ω γ) (s : Store) (root : NodeId) (state : LoadState ω),
      PassesPlain ⟨⟨supply, Language.collect s root⟩, state⟩ := by
  constructor
  · intro t
    refine ⟨t.fetched_eq, t.mem_missing_iff, ⟨t.nodup_missing, ?_⟩, ?_⟩
    · exact (Language.pairwise_distinct _).filter _
    · rw [passesPlain_iff]
      simp only [mem_missing_iff, and_imp, ← Bool.not_eq_true]
      exact forall₂_congr fun l _ => not_imp_not
  · intro γ supply s root state
    rw [passesPlain_iff]
    intro l hl
    exact Language.isPlain_of_mem_collect s root l ((mem_missing_iff _ l).mp hl).1

/-- A call for plain text, a language and the empty tag, to a supplier that has a grammar for
each. -/
def plainTurn : LoadTurn Nat := ⟨⟨hesitant .unnamed, ["text", "python", ""]⟩, ⟨1, {}, []⟩⟩

/-- Plain text and the empty tag are asked for, recorded and given back like any language. -/
theorem asks_plainTurn : plainTurn.steps.filterMap Step.fetched? = ["text", "python", ""] ∧
    plainTurn.returned = ["text", "python", ""] ∧
    plainTurn.next.cache.isLoaded .unnamed "text" = true ∧ ¬plainTurn.PassesPlain := by
  refine ⟨by decide +kernel, by decide +kernel, by decide +kernel, fun hpasses => ?_⟩
  have hmissing : "text" ∈ plainTurn.missing := (mem_missing_iff _ _).mpr ⟨by decide, rfl⟩
  have hplain := (passesPlain_iff _).mp hpasses "text" hmissing
  cases hplain

end LoadTurn

end CodeHighlight
