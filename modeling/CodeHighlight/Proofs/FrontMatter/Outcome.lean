import CodeHighlight.Proofs.FrontMatter.Body
import CodeHighlight.Proofs.Yaml.Load

/-!
# What becomes of front matter

A text is separated from its front matter, or left whole, or refused. It is refused only for data
that has a form and no value.
-/

namespace CodeHighlight

namespace FrontMatter

private theorem split_of_noData (source : String) (load : Loader) (d : Delimited source.toList)
    (h : load (joined d.data) = .error Option.none) : split source load = .ok ⟨[], source⟩ := by
  rw [split, d.delimited?_eq]
  dsimp only
  rw [h, none]

private theorem split_of_failure (source : String) (load : Loader) (d : Delimited source.toList)
    (failure : Failure) (h : load (joined d.data) = .error (some failure)) :
    split source load = .error failure := by
  rw [split, d.delimited?_eq]
  dsimp only
  rw [h]

/-- The entries are those of the value that was loaded, if it is a mapping. -/
structure HasEntriesOf (front : FrontMatter) (value : Yaml.Value) : Prop where
  mapping : ∀ entries, value = .mapping entries → front.entries = entries
  other : (∀ entries, value ≠ .mapping entries) → front.entries = []

private theorem hasEntriesOf_entriesOf (value : Yaml.Value) (body : String) :
    HasEntriesOf ⟨entriesOf value, body⟩ value := by
  cases value with
  | mapping entries => exact ⟨fun _ h => Yaml.Value.mapping.inj h, fun h => absurd rfl (h entries)⟩
  | _ => exact ⟨nofun, fun _ => rfl⟩

/-- What becomes of a text, whatever loads its data. Without delimiters, and where the text between
them is no data, it is left whole; where the data is loaded, it is separated. Every failure of the
loader comes through, and there are no others. -/
theorem outcome_of_split (source : String) (load : Loader) :
    (¬Nonempty (Delimited source.toList) → split source load = .ok ⟨[], source⟩) ∧
    (∀ d : Delimited source.toList,
      (∀ value, load d.text = .ok value →
        ∃ front, split source load = .ok front ∧ front.HasEntriesOf value) ∧
      (load d.text = .error Option.none → split source load = .ok ⟨[], source⟩)) ∧
    ∀ failure, split source load = .error failure ↔
      ∃ d : Delimited source.toList, load d.text = .error (some failure) := by
  have hwhole (h : ¬Nonempty (Delimited source.toList)) : split source load = .ok ⟨[], source⟩ := by
    rw [split, (delimited?_eq_none_iff source.toList).mpr h, none]
  simp only [← Delimited.joined_data]
  refine ⟨hwhole, fun d => ⟨fun value h => ?_, split_of_noData source load d⟩, fun failure => ?_⟩
  · exact ⟨_, split_of_load source load d value h, hasEntriesOf_entriesOf value _⟩
  constructor
  · intro hfailed
    by_cases hd : Nonempty (Delimited source.toList)
    · obtain ⟨d⟩ := hd
      refine ⟨d, ?_⟩
      cases hload : load (joined d.data) with
      | ok value =>
        rw [split_of_load source load d value hload] at hfailed
        cases hfailed
      | error trouble =>
        cases trouble with
        | none =>
          rw [split_of_noData source load d hload] at hfailed
          cases hfailed
        | some other =>
          rw [split_of_failure source load d other hload] at hfailed
          cases hfailed
          rfl
    · rw [hwhole hd] at hfailed
      cases hfailed
  · rintro ⟨d, h⟩
    exact split_of_failure source load d failure h

/-- A failure to load data is that of a text which has a form and no value. -/
theorem loadData_failure (text : List Char) (failure : Failure)
    (h : loadData text = .error (some failure)) :
    ∃ fault : Yaml.Fault, fault.failure? = some failure ∧ Yaml.IsValueless text fault := by
  unfold loadData at h
  cases hload : Yaml.load text with
  | ok value =>
    rw [hload] at h
    cases h
  | error fault =>
    rw [hload] at h
    have hfailure : fault.failure? = some failure := Except.error.inj h
    refine ⟨fault, hfailure, Yaml.load_error text fault hload fun hmalformed => ?_⟩
    rw [(fault.failure?_eq_none_iff).mpr hmalformed] at hfailure
    cases hfailure

/-- A list that nothing closes, between delimiters. -/
def unclosed : Delimited "---\n[\n---\n".toList where
  marks := []
  head := "---\n[\n---\n".toList
  rest := []
  opening := "---".toList
  data := ["[".toList]
  closing := "---".toList
  source_eq := by decide +kernel
  marks_eq := marks_nil
  unmarked := by decide +kernel
  lines_head := by decide +kernel
  ends := Or.inl rfl
  isOpening := isOpening_dashes
  not_isClosing := List.forall_mem_singleton.mpr ((closes_eq_false_iff _).mp (by decide +kernel))
  isClosing := isClosing_dashes

/-- A text with a list that nothing closes is left whole. -/
theorem outcome_of_split_unclosed :
    split "---\n[\n---\n" = .ok ⟨[], "---\n[\n---\n"⟩ :=
  ((outcome_of_split "---\n[\n---\n" loadData).2.1 unclosed).2 rfl

/-- A text with a day in a thirteenth month is refused. -/
theorem outcome_of_split_month :
    split "---\nd: 2001-13-01\n---\n" = .error (.plain .badValue "month must be in 1..12") := by
  have hrefused : (match split "---\nd: 2001-13-01\n---\n" with
      | .ok _ => false
      | .error failure => decide (failure = .plain .badValue "month must be in 1..12")) = true := by
    decide +kernel
  cases hsplit : split "---\nd: 2001-13-01\n---\n" with
  | ok front =>
    rw [hsplit] at hrefused
    cases hrefused
  | error failure =>
    rw [hsplit] at hrefused
    exact congrArg _ (of_decide_eq_true hrefused)

end FrontMatter

end CodeHighlight
