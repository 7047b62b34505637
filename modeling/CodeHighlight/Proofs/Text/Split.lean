import CodeHighlight.Text.Blank

/-!
# Cutting and joining

Pieces between separators hold no separator, and joined pieces without separators inside are cut
apart again.
-/

namespace CodeHighlight.Text

/-- Pieces between separators hold no separator. -/
theorem not_mem_of_mem_splitAt (sep : Char) (text piece : List Char)
    (h : piece ∈ splitAt sep text) : sep ∉ piece := by
  induction text generalizing piece with
  | nil =>
    rw [splitAt, List.mem_singleton] at h
    rw [h]
    exact List.not_mem_nil
  | cons c rest ih =>
    rw [splitAt] at h
    by_cases hc : c = sep
    · rw [if_pos hc, List.mem_cons] at h
      rcases h with rfl | h
      · exact List.not_mem_nil
      · exact ih piece h
    · rw [if_neg hc] at h
      cases hs : splitAt sep rest with
      | nil => exact absurd hs (splitAt_ne_nil sep rest)
      | cons first more =>
        rw [hs] at h ih
        rcases List.mem_cons.mp h with rfl | h
        · rw [List.mem_cons, not_or]
          exact ⟨fun e => hc e.symm, ih first List.mem_cons_self⟩
        · exact ih piece (List.mem_cons_of_mem _ h)

/-- The first piece of a text that begins without separators begins with that beginning. -/
theorem splitAt_append_of_not_mem (sep : Char) (front back first : List Char)
    (more : List (List Char)) (hfront : sep ∉ front) (h : splitAt sep back = first :: more) :
    splitAt sep (front ++ back) = (front ++ first) :: more := by
  induction front with
  | nil => exact h
  | cons c front ih =>
    rw [List.mem_cons, not_or] at hfront
    have hc : c ≠ sep := fun e => hfront.1 e.symm
    rw [List.cons_append, splitAt, if_neg hc, ih hfront.2]
    rfl

/-- The first piece, a separator and the others, when there are others. -/
theorem joinWith_cons (sep piece : List Char) (pieces : List (List Char)) (h : pieces ≠ []) :
    joinWith sep (piece :: pieces) = piece ++ (sep ++ joinWith sep pieces) := by
  rw [joinWith, List.append_assoc]
  exact h

/-- Cutting what was joined gives the pieces back, when no separator stands inside them. -/
theorem splitAt_joinWith (sep : Char) (pieces : List (List Char)) (hne : pieces ≠ [])
    (hsep : ∀ piece ∈ pieces, sep ∉ piece) : splitAt sep (joinWith [sep] pieces) = pieces := by
  induction pieces with
  | nil => exact absurd rfl hne
  | cons piece rest ih =>
    have hpiece := hsep piece List.mem_cons_self
    by_cases hrest : rest = []
    · have hlast := splitAt_append_of_not_mem sep piece [] [] [] hpiece rfl
      rw [List.append_nil] at hlast
      rw [hrest, joinWith, hlast]
    · have hothers : splitAt sep (sep :: joinWith [sep] rest) = [] :: rest := by
        rw [splitAt, if_pos rfl, ih hrest fun p hp => hsep p (List.mem_cons_of_mem _ hp)]
      rw [joinWith_cons [sep] piece rest hrest, List.singleton_append,
        splitAt_append_of_not_mem sep piece _ [] rest hpiece hothers, List.append_nil]

/-- Behind an empty piece every other piece stands behind a separator. -/
theorem joinWith_nil_cons (sep : Char) (pieces : List (List Char)) :
    joinWith [sep] ([] :: pieces) = pieces.flatMap (sep :: ·) := by
  induction pieces with
  | nil => rfl
  | cons piece rest ih =>
    rw [joinWith_cons [sep] [] (piece :: rest) (List.cons_ne_nil _ _), List.flatMap_cons, ← ih]
    by_cases hrest : rest = []
    · rw [hrest]
      simp [joinWith]
    · rw [joinWith_cons [sep] piece rest hrest, joinWith_cons [sep] [] rest hrest]
      simp

/-- With a separator behind the last piece every piece stands before a separator. -/
theorem joinWith_append_cons (sep : Char) (pieces : List (List Char)) (behind : List Char)
    (h : pieces ≠ []) :
    joinWith [sep] pieces ++ sep :: behind = pieces.flatMap (· ++ [sep]) ++ behind := by
  induction pieces with
  | nil => exact absurd rfl h
  | cons piece rest ih =>
    by_cases hrest : rest = []
    · rw [hrest]
      simp [joinWith]
    · rw [joinWith_cons [sep] piece rest hrest, List.append_assoc, List.append_assoc, ih hrest,
        List.flatMap_cons, List.append_assoc, List.append_assoc]

/-- A character of joined pieces is one of the separator or of a piece. -/
theorem mem_joinWith (sep : List Char) (pieces : List (List Char)) (c : Char)
    (h : c ∈ joinWith sep pieces) : c ∈ sep ∨ ∃ piece ∈ pieces, c ∈ piece := by
  induction pieces with
  | nil => cases h
  | cons piece rest ih =>
    by_cases hrest : rest = []
    · rw [hrest, joinWith] at h
      exact Or.inr ⟨piece, List.mem_cons_self, h⟩
    · rw [joinWith_cons sep piece rest hrest, List.mem_append, List.mem_append] at h
      rcases h with hpiece | hsep | hmore
      · exact Or.inr ⟨piece, List.mem_cons_self, hpiece⟩
      · exact Or.inl hsep
      · rcases ih hmore with hin | ⟨q, hq, hc⟩
        · exact Or.inl hin
        · exact Or.inr ⟨q, List.mem_cons_of_mem _ hq, hc⟩

/-- The characters of strings that are written with a string between them. -/
theorem toList_intercalate (sep : String) (texts : List String) :
    (String.intercalate sep texts).toList = joinWith sep.toList (texts.map String.toList) := by
  rw [String.toList_intercalate]
  induction texts.map String.toList with
  | nil => rfl
  | cons piece rest ih =>
    cases rest with
    | nil => simp [joinWith, List.intercalate]
    | cons next more =>
      rw [joinWith_cons _ _ _ (List.cons_ne_nil _ _), ← ih]
      simp [List.intercalate]

/-- The text behind a fixed beginning. -/
def behind? (front text : List Char) : Option (List Char) :=
  if front.isPrefixOf text then some (text.drop front.length) else none

/-- What stands behind a beginning is found. -/
theorem behind?_append (front text : List Char) : behind? front (front ++ text) = some text := by
  have hprefix : front.isPrefixOf (front ++ text) = true :=
    List.isPrefixOf_iff_prefix.mpr (List.prefix_append front text)
  rw [behind?, if_pos hprefix, List.drop_left]

/-- A text with another first character does not begin so. -/
theorem behind?_cons_of_ne (c d : Char) (front text : List Char) (h : c ≠ d) :
    behind? (c :: front) (d :: text) = none := by
  rw [behind?, if_neg]
  simp [h]

end CodeHighlight.Text
