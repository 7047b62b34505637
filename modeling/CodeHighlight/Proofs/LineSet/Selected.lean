import CodeHighlight.Proofs.Directives.Selector
import CodeHighlight.Proofs.LineSet.Canonical

/-!
# The lines of a selector

A selector is read exactly when it is written in the grammar and none of its numbers is too long.
The lines read are those that its items name.
-/

namespace CodeHighlight

/-- The item is the number of the line, or a range in either direction whose ends enclose it. -/
def WrittenItem.Names (i : WrittenItem) (n : Int) : Prop :=
  match i.last with
  | none => n = i.first.value
  | some last =>
    ((i.first.value : Int) ≤ n ∧ n ≤ last.value) ∨ ((last.value : Int) ≤ n ∧ n ≤ i.first.value)

/-- An item names the lines between its ends. -/
theorem WrittenItem.names_iff (i : WrittenItem) (n : Int) :
    i.Names n ↔ (i.ends.1 ≤ n ∧ n ≤ i.ends.2) ∨ (i.ends.2 ≤ n ∧ n ≤ i.ends.1) := by
  rw [Names, ends]
  cases i.last with
  | none =>
    simp only [Option.getD_none]
    omega
  | some last => rfl

/-- The lines of a written selector are those that an item names. -/
theorem WrittenSelector.mem_lines (s : WrittenSelector) (n : Int) :
    n ∈ s.lines ↔ ∃ i ∈ s.items, i.Names n := by
  rw [lines, LineSet.mem_ofPairs, LineSet.Enclosed]
  simp only [WrittenItem.names_iff]
  constructor
  · rintro ⟨p, hp, hn⟩
    obtain ⟨i, hi, rfl⟩ := List.mem_map.mp hp
    exact ⟨i, hi, hn⟩
  · rintro ⟨i, hi, hn⟩
    exact ⟨i.ends, List.mem_map_of_mem hi, hn⟩

namespace LineSet

/-- What is read as a selector is written in the grammar. -/
theorem exists_written (selector : List Char) (lines : LineSet)
    (h : ofSelector? selector = some lines) : ∃ s : WrittenSelector, s.text = selector := by
  rw [← WrittenSelector.isSome_items?_iff]
  cases hitems : items? selector with
  | none =>
    rw [ofSelector?, hitems] at h
    cases h
  | some _ => rfl

/-- A text selects lines exactly when it is a list of items between commas, each a run of digits or
two runs joined by a hyphen with blanks around it, and no run is too long to be read. The lines are
then those that are the number of an item or lie in its range. -/
theorem selects_written (text : String) :
    ((ofSelectorText? text).isSome = true ↔
        ∃ s : WrittenSelector, s.text = text.toList ∧ s.Readable) ∧
      ∀ s : WrittenSelector, s.text = text.toList → ∀ lines, ofSelectorText? text = some lines →
        s.Readable ∧ ∀ n, n ∈ lines ↔ ∃ i ∈ s.items, i.Names n := by
  have hread : ∀ s : WrittenSelector, s.text = text.toList →
      ofSelectorText? text = if s.Readable then some s.lines else none := by
    intro s hs
    rw [ofSelectorText?, ← hs, s.ofSelector?_text]
  constructor
  · constructor
    · intro h
      obtain ⟨lines, hlines⟩ := Option.isSome_iff_exists.mp h
      obtain ⟨s, hs⟩ := exists_written text.toList lines hlines
      refine ⟨s, hs, ?_⟩
      by_cases hreadable : s.Readable
      · exact hreadable
      · rw [hread s hs, if_neg hreadable] at h
        cases h
    · rintro ⟨s, hs, hreadable⟩
      rw [hread s hs, if_pos hreadable]
      rfl
  · intro s hs lines hlines
    rw [hread s hs, Option.ite_none_right_eq_some, Option.some.injEq] at hlines
    refine ⟨hlines.1, fun n => ?_⟩
    rw [← hlines.2]
    exact s.mem_lines n

end LineSet

end CodeHighlight
