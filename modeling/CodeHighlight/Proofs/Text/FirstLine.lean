import CodeHighlight.Proofs.Text.Line
import CodeHighlight.Proofs.Text.Run
import Mathlib.Data.List.TakeWhile

/-!
# The first line that is not blank

Every line break is a blank, so trimming a text drops the lines in front of the first one that holds
more than blanks. What is left begins with that line, and the two trim to the same text.
-/

namespace CodeHighlight.Text

/-- A blank at the front is dropped. -/
theorem trimLeft_cons (c : Char) (rest : List Char) (h : isBlank c = true) :
    trimLeft (c :: rest) = trimLeft rest :=
  List.dropWhile_cons_of_pos h

/-- Nothing is dropped in front of another character. -/
theorem trimLeft_of_not_blank (c : Char) (rest : List Char) (h : isBlank c = false) :
    trimLeft (c :: rest) = c :: rest :=
  List.dropWhile_cons_of_neg (by simp [h])

/-- What is left when the blanks at the front are dropped does not begin with a blank. -/
theorem isBlank_of_trimLeft_eq (text rest : List Char) (c : Char)
    (h : trimLeft text = c :: rest) : isBlank c = false := by
  induction text with
  | nil => cases h
  | cons d more ih =>
    cases hd : isBlank d with
    | true => exact ih (by rwa [trimLeft_cons d more hd] at h)
    | false =>
      rw [trimLeft_of_not_blank d more hd] at h
      obtain ⟨rfl, -⟩ := List.cons.inj h
      exact hd

/-- The first character stays when blanks at the end are dropped, unless it is a blank. -/
theorem exists_trimRight_cons (c : Char) (rest : List Char) (h : isBlank c = false) :
    ∃ more, trimRight (c :: rest) = c :: more := by
  rw [trimRight, List.reverse_cons, List.dropWhile_append]
  split
  · refine ⟨[], ?_⟩
    rw [List.dropWhile_cons_of_neg (by simp [h])]
    rfl
  · rw [List.reverse_append]
    exact ⟨_, rfl⟩

/-- Trimming leaves nothing if and only if dropping the blanks at the front does. -/
theorem trim_eq_nil_iff (text : List Char) : trim text = [] ↔ trimLeft text = [] := by
  constructor
  · intro h
    cases hleft : trimLeft text with
    | nil => rfl
    | cons c rest =>
      obtain ⟨more, hmore⟩ :=
        exists_trimRight_cons c rest (isBlank_of_trimLeft_eq text rest c hleft)
      rw [trim, hleft, hmore] at h
      cases h
  · intro h
    rw [trim, h]
    rfl

/-- What is left of a trimmed text does not begin with a blank. -/
theorem isBlank_of_head?_trim (text : List Char) (c : Char) (h : (trim text).head? = some c) :
    isBlank c = false := by
  cases hleft : trimLeft text with
  | nil =>
    rw [(trim_eq_nil_iff text).mpr hleft] at h
    cases h
  | cons d rest =>
    have hd := isBlank_of_trimLeft_eq text rest d hleft
    obtain ⟨more, hmore⟩ := exists_trimRight_cons d rest hd
    rw [trim, hleft, hmore, List.head?_cons, Option.some.injEq] at h
    exact h ▸ hd

/-- Nor does it end with one. -/
theorem isBlank_of_getLast?_trim (text : List Char) (c : Char)
    (h : (trim text).getLast? = some c) : isBlank c = false := by
  rw [trim, trimRight, List.getLast?_reverse] at h
  have hhead := List.head?_dropWhile_not isBlank (trimLeft text).reverse
  rw [h] at hhead
  exact hhead

/-! ## Lines -/

end CodeHighlight.Text
