import CodeHighlight.Proofs.Directives.Scan

/-!
# Searches

A search looks at one place of a text after the other, with the characters before the place and
those from it on. It finds what the first successful look finds.
-/

namespace CodeHighlight

variable {α : Type}

/-- A scanner that takes what `look` finds at the first place where it finds anything. -/
structure Searches (scan look : Scanner α) : Prop where
  nil : ∀ before, scan before [] = none
  cons : ∀ before c rest,
    scan before (c :: rest) = (look before (c :: rest)).or (scan (c :: before) rest)

namespace Searches

/-- A piece is passed when nothing is found at any of its places. -/
theorem passes (scan look : Scanner α) (h : Searches scan look) (before piece rest : List Char)
    (hnone : ∀ front back, piece = front ++ back → back ≠ [] →
      look (front.reverse ++ before) (back ++ rest) = none) :
    Passes scan before piece rest := by
  induction piece generalizing before with
  | nil => exact Passes.nil scan before rest
  | cons c more ih =>
    apply Passes.cons
    · have hc : look before (c :: (more ++ rest)) = none :=
        hnone [] (c :: more) rfl (List.cons_ne_nil c more)
      rw [h.cons, hc, Option.none_or]
    · apply ih
      intro front back hmore hback
      have hlook := hnone (c :: front) back (by rw [hmore]; rfl) hback
      rwa [List.reverse_cons, List.append_assoc] at hlook

/-- What is found at a place is the result when nothing is found at the places before. -/
theorem eq_some (scan look : Scanner α) (h : Searches scan look) (front : List Char) (c : Char)
    (rest : List Char) (a : α) (hlook : look front.reverse (c :: rest) = some a)
    (hnone : ∀ start back, front = start ++ back → back ≠ [] →
      look start.reverse (back ++ c :: rest) = none) :
    scan [] (front ++ c :: rest) = some a := by
  have hpass : Passes scan [] front (c :: rest) := by
    apply h.passes
    intro start back hfront hback
    rw [List.append_nil]
    exact hnone start back hfront hback
  rw [hpass, List.append_nil, h.cons, hlook, Option.some_or]

/-- There is no result when nothing is found at any place. -/
theorem eq_none (scan look : Scanner α) (h : Searches scan look) (text : List Char)
    (hnone : ∀ front rest, text = front ++ rest → look front.reverse rest = none) :
    scan [] text = none := by
  have hpass : Passes scan [] text [] := by
    apply h.passes
    intro front back htext _
    rw [List.append_nil, List.append_nil]
    exact hnone front back htext
  rw [Passes, List.append_nil] at hpass
  rw [hpass, h.nil]

end Searches

/-- Where something holds at all, it holds somewhere at the least size. -/
theorem exists_least {β : Type} (holds : β → Prop) (size : β → Nat) (b : β) (h : holds b) :
    ∃ first, holds first ∧ ∀ other, holds other → size first ≤ size other := by
  induction hsize : size b using Nat.strongRecOn generalizing b with
  | ind n ih =>
    by_cases hless : ∃ other, holds other ∧ size other < n
    · obtain ⟨other, hother, hlt⟩ := hless
      exact ih _ hlt other hother rfl
    · refine ⟨b, h, fun other hother => ?_⟩
      rw [hsize]
      exact Nat.le_of_not_lt fun hlt => hless ⟨other, hother, hlt⟩

/-- The first place of a text at which something holds of what stands before it and of what stands
from it on. -/
structure FirstPlace (holds : List Char → List Char → Prop) (text front rest : List Char) :
    Prop where
  text_eq : front ++ rest = text
  found : holds front rest
  least : ∀ start back, start ++ back = text → holds start back → front.length ≤ start.length

/-- Where there is a place there is a first one. -/
theorem exists_firstPlace (holds : List Char → List Char → Prop) (text front rest : List Char)
    (htext : front ++ rest = text) (h : holds front rest) :
    ∃ start back, FirstPlace holds text start back := by
  obtain ⟨first, ⟨hfirst, hholds⟩, hleast⟩ := exists_least
    (fun p : List Char × List Char => p.1 ++ p.2 = text ∧ holds p.1 p.2) (·.1.length)
    (front, rest) ⟨htext, h⟩
  exact ⟨first.1, first.2, hfirst, hholds, fun start back hstart hback =>
    hleast (start, back) ⟨hstart, hback⟩⟩

namespace Searches

variable (scan look : Scanner α) (h : Searches scan look)
  (holds : List Char → List Char → Prop)
  (hlook : ∀ front rest, (look front.reverse rest).isSome = true ↔ holds front rest)

include h hlook

/-- A search that looks for something finds what is seen at the first place where it holds. -/
theorem eq_look (text front : List Char) (c : Char) (rest : List Char)
    (hfirst : FirstPlace holds text front (c :: rest)) :
    scan [] text = look front.reverse (c :: rest) := by
  obtain ⟨a, ha⟩ := Option.isSome_iff_exists.mp ((hlook _ _).mpr hfirst.found)
  rw [ha, ← hfirst.text_eq]
  apply h.eq_some _ _ _ _ _ _ ha
  intro start back hfront hback
  by_cases hsome : (look start.reverse (back ++ c :: rest)).isSome = true
  · have htext : start ++ (back ++ c :: rest) = text := by
      rw [← List.append_assoc, ← hfront, hfirst.text_eq]
    have hleast := hfirst.least _ _ htext ((hlook _ _).mp hsome)
    have hlength := List.length_pos_iff.mpr hback
    rw [hfront, List.length_append] at hleast
    omega
  · exact Option.not_isSome_iff_eq_none.mp hsome

/-- A search that looks for something finds nothing where it holds at no place. -/
theorem eq_none_of_no_place (text : List Char)
    (hnone : ∀ front rest, front ++ rest = text → ¬ holds front rest) : scan [] text = none := by
  apply h.eq_none
  intro front rest htext
  by_cases hsome : (look front.reverse rest).isSome = true
  · exact absurd ((hlook _ _).mp hsome) (hnone front rest htext.symm)
  · exact Option.not_isSome_iff_eq_none.mp hsome

/-- A search finds something exactly if that which it looks for holds at some place. -/
theorem isSome_iff (hend : ∀ front, ¬ holds front []) (text : List Char) :
    (scan [] text).isSome = true ↔ ∃ front rest, front ++ rest = text ∧ holds front rest := by
  constructor
  · intro hsome
    apply Classical.byContradiction
    intro hnone
    rw [h.eq_none_of_no_place _ _ _ hlook text fun front rest htext hholds =>
      hnone ⟨front, rest, htext, hholds⟩] at hsome
    cases hsome
  · rintro ⟨front, rest, htext, hholds⟩
    obtain ⟨start, back, hfirst⟩ := exists_firstPlace holds text front rest htext hholds
    cases back with
    | nil => exact absurd hfirst.found (hend start)
    | cons c back =>
      rw [h.eq_look _ _ _ hlook text start c back hfirst]
      exact (hlook _ _).mpr hfirst.found

end Searches

end CodeHighlight
