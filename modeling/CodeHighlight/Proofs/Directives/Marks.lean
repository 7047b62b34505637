import CodeHighlight.Proofs.Directives.Lookup
import CodeHighlight.Proofs.LineSet.Canonical

/-!
# Marked lines

The first sign with a digit directly behind it decides which lines are added or removed. The longest
list of numbers that begins there is read as a whole: one number that is too long drops the marks.
-/

namespace CodeHighlight

open Text (Digits)

/-- The members of a set of lines are these lines. -/
theorem LineSet.mem_ofLines (lines : List Int) (n : Int) : n ∈ ofLines lines ↔ n ∈ lines := by
  rw [ofLines, mem_ofPairs, Enclosed]
  constructor
  · rintro ⟨p, hp, hn⟩
    obtain ⟨m, hm, rfl⟩ := List.mem_map.mp hp
    have he : n = m := by
      dsimp only at hn
      omega
    rwa [he]
  · intro hn
    exact ⟨(n, n), List.mem_map_of_mem hn, Or.inl ⟨Int.le_refl n, Int.le_refl n⟩⟩

namespace WrittenNumbers

/-- A text begins with the list, and with no longer one. -/
structure IsLongest (n : WrittenNumbers) (text : List Char) : Prop where
  isPrefix : n.text <+: text
  longest : ∀ m : WrittenNumbers, m.text <+: text → m.text.length ≤ n.text.length

/-- Cutting at the commas gives the numbers. -/
theorem splitAt_text (n : WrittenNumbers) :
    Text.splitAt ',' n.text = n.numbers.map Digits.chars := by
  apply Text.splitAt_joinWith
  · exact fun h => n.nonempty (List.map_eq_nil_iff.mp h)
  · intro piece hpiece
    obtain ⟨d, -, rfl⟩ := List.mem_map.mp hpiece
    exact d.not_mem ',' (Text.isDigit_eq_false _ (by decide))

/-- The lines of a list that is not too long are its numbers. -/
theorem mem_lines (n : WrittenNumbers) (lines : LineSet) (h : n.lines? = some lines) :
    n.Readable ∧ ∀ k, k ∈ lines ↔ ∃ d ∈ n.numbers, k = d.value := by
  rw [lines?, Option.ite_none_right_eq_some, Option.some.injEq] at h
  obtain ⟨hreadable, rfl⟩ := h
  refine ⟨hreadable, fun k => ?_⟩
  rw [LineSet.mem_ofLines, List.mem_map]
  simp only [eq_comm]

/-- A list names lines unless one of its numbers is too long. -/
theorem isSome_lines?_iff (n : WrittenNumbers) : n.lines?.isSome = true ↔ n.Readable := by
  rw [lines?]
  by_cases h : n.Readable
  · simp [h]
  · simp [h]

end WrittenNumbers

namespace Directives

/-- The numbers that are read are written at the front of the text. -/
theorem exists_numberRuns (text : List Char) (h : Text.startsWith Text.isDigit text = true) :
    ∃ n : WrittenNumbers, n.numbers.map Digits.chars = numberRuns text ∧ n.text <+: text := by
  induction hlength : text.length using Nat.strongRecOn generalizing text with
  | ind length ih =>
    obtain ⟨d, behind, rfl, hbehind⟩ := Digits.exists_front text h
    by_cases hmore : ∃ rest, behind = ',' :: rest ∧ Text.startsWith Text.isDigit rest = true
    · obtain ⟨rest, rfl, hrest⟩ := hmore
      have hshorter : rest.length < length := by
        rw [← hlength, List.length_append, List.length_cons]
        omega
      obtain ⟨n, hn, back, hback⟩ := ih _ hshorter rest hrest rfl
      have hne : n.numbers.map Digits.chars ≠ [] := fun he =>
        n.nonempty (List.map_eq_nil_iff.mp he)
      refine ⟨⟨d :: n.numbers, List.cons_ne_nil _ _⟩, ?_, back, ?_⟩
      · rw [List.map_cons, hn, numberRuns_comma d rest hrest]
      · rw [WrittenNumbers.text, List.map_cons, Text.joinWith_cons _ _ _ hne, ← hback]
        simp [WrittenNumbers.text]
    · refine ⟨⟨[d], List.cons_ne_nil _ _⟩, ?_, behind, rfl⟩
      rw [numberRuns_last d behind hbehind]
      · rfl
      · intro rest hrest
        cases hdigit : Text.startsWith Text.isDigit rest with
        | false => rfl
        | true => exact absurd ⟨rest, hrest, hdigit⟩ hmore

private theorem exists_others (text : List Char) :
    ∃ others, numberRuns text = text.takeWhile Text.isDigit :: others := by
  rw [numberRuns]
  exact ⟨_, rfl⟩

/-- No list at the front of the text is longer than the numbers that are read. -/
theorem prefix_numberRuns (numbers : List Digits) (rest : List Char) (hne : numbers ≠ []) :
    Text.joinWith [','] (numbers.map Digits.chars) <+:
      Text.joinWith [','] (numberRuns
        (Text.joinWith [','] (numbers.map Digits.chars) ++ rest)) := by
  induction numbers with
  | nil => exact absurd rfl hne
  | cons d others ih =>
    cases others with
    | nil =>
      -- The run that is read may go on behind the only number.
      obtain ⟨others, hruns⟩ := exists_others (d.chars ++ rest)
      rw [List.map_cons, List.map_nil, Text.joinWith, hruns,
        List.takeWhile_append_of_pos d.isDigit_of_mem]
      cases others with
      | nil => exact List.prefix_append _ _
      | cons next more =>
        rw [Text.joinWith_cons _ _ _ (List.cons_ne_nil _ _), List.append_assoc]
        exact List.prefix_append _ _
    | cons e more =>
      have hmore :
          numberRuns (Text.joinWith [','] ((e :: more).map Digits.chars) ++ rest) ≠ [] := by
        obtain ⟨others, hruns⟩ := exists_others
          (Text.joinWith [','] ((e :: more).map Digits.chars) ++ rest)
        rw [hruns]
        exact List.cons_ne_nil _ _
      have hdigit := startsWith_numbers e more rest
      rw [List.map_cons, Text.joinWith_cons _ _ _ (by simp), List.append_assoc, List.append_assoc,
        List.singleton_append, List.singleton_append, numberRuns_comma d _ hdigit,
        Text.joinWith_cons _ _ _ hmore, List.singleton_append]
      exact (List.prefix_append_right_inj _).mpr
        (List.cons_prefix_cons.mpr ⟨rfl, ih (List.cons_ne_nil _ _)⟩)

/-- The numbers behind a digit are those of the longest list that begins there. -/
theorem exists_longest (text : List Char) (h : Text.startsWith Text.isDigit text = true) :
    ∃ n : WrittenNumbers, n.IsLongest text := by
  obtain ⟨n, hn, hprefix⟩ := exists_numberRuns text h
  refine ⟨n, hprefix, ?_⟩
  rintro m ⟨rest, rfl⟩
  have hm := prefix_numberRuns m.numbers rest m.nonempty
  change m.text <+: Text.joinWith [','] (numberRuns (m.text ++ rest)) at hm
  rw [← hn] at hm
  exact hm.length_le

/-- The longest list at the front of a text is read. -/
theorem numberRuns_of_isLongest (n : WrittenNumbers) (text : List Char) (h : n.IsLongest text) :
    numberRuns text = n.numbers.map Digits.chars := by
  obtain ⟨rest, rfl⟩ := h.isPrefix
  have hdigit : Text.startsWith Text.isDigit (n.text ++ rest) = true := by
    rw [WrittenNumbers.text]
    cases hn : n.numbers with
    | nil => exact absurd hn n.nonempty
    | cons d others => exact startsWith_numbers d others rest
  obtain ⟨m, hm, hprefix⟩ := exists_numberRuns _ hdigit
  have hshort := prefix_numberRuns n.numbers rest n.nonempty
  change n.text <+: Text.joinWith [','] (numberRuns (n.text ++ rest)) at hshort
  rw [← hm] at hshort
  have hsame : n.text = m.text := hshort.eq_of_length_le (h.longest m hprefix)
  rw [← hm, ← m.splitAt_text, ← hsame, n.splitAt_text]

/-- A sign with a digit directly behind it stands at a place. A digit directly before the sign of
removed lines makes it the hyphen of a range. -/
def SignAt (removed : Bool) (front rest : List Char) : Prop :=
  ∃ back, rest = sign removed :: back ∧ Text.startsWith Text.isDigit back = true ∧
    (removed = true → ∀ c ∈ front.getLast?, Text.isDigit c = false)

/-- The numbers behind a sign at a place. -/
def numbersAt? (s : Char) (alone : Bool) : Scanner (List (List Char))
  | _, [] => none
  | before, c :: rest =>
    if c = s ∧ (rest.head?.any Text.isDigit) ∧ ¬(alone ∧ before.head?.any Text.isDigit) then
      some (numberRuns rest)
    else none

/-- The lookup of a sign takes the numbers behind the first one. -/
theorem searches_firstNumbers? (s : Char) (alone : Bool) :
    Searches (firstNumbers? s alone) (numbersAt? s alone) := by
  constructor
  · exact fun before => rfl
  · intro before c rest
    rw [firstNumbers?, numbersAt?]
    split
    · exact (Option.some_or ..).symm
    · exact (Option.none_or ..).symm

/-- Numbers are found where a sign stands. -/
theorem isSome_numbersAt?_iff (removed : Bool) (front rest : List Char) :
    (numbersAt? (sign removed) removed front.reverse rest).isSome = true ↔
      SignAt removed front rest := by
  have hbefore : ¬(removed = true ∧ front.getLast?.any Text.isDigit = true) ↔
      (removed = true → ∀ c ∈ front.getLast?, Text.isDigit c = false) := by
    cases front.getLast? with
    | none => simp
    | some c => simp
  cases rest with
  | nil => simp [numbersAt?, SignAt]
  | cons c rest =>
    rw [numbersAt?, List.head?_reverse]
    constructor
    · intro h
      split at h
      · next hsign => exact ⟨rest, by rw [hsign.1], hsign.2.1, hbefore.mp hsign.2.2⟩
      · cases h
    · rintro ⟨back, he, hdigit, halone⟩
      obtain ⟨rfl, rfl⟩ := List.cons.inj he
      rw [if_pos ⟨rfl, hdigit, hbefore.mpr halone⟩]
      rfl

/-- The lines that are marked as removed or as added. -/
def marks (removed : Bool) (d : Directives) : Option LineSet :=
  d.diff.bind fun m => if removed then m.removed else m.added

/-- The marks are what the lookup of their sign finds. -/
theorem marks_ofMeta (removed : Bool) (text : String) :
    marks removed (ofMeta (some text)) =
      markedLines? (sign removed) removed text.toList := by
  have hside : ∀ plus minus : Option LineSet,
      (if plus.isNone && minus.isNone then none else some (DiffMarks.mk plus minus)).bind
        (fun m => if removed then m.removed else m.added) = if removed then minus else plus := by
    intro plus minus
    cases removed with
    | false => cases plus <;> cases minus <;> rfl
    | true => cases plus <;> cases minus <;> rfl
  change (diff? text.toList).bind _ = _
  rw [diff?, hside]
  cases removed with
  | false => rfl
  | true => rfl

/-- Lines are marked exactly if some are added or some are removed. -/
theorem diff_ofMeta_eq_none_iff (text : String) :
    (ofMeta (some text)).diff = none ↔
      marks false (ofMeta (some text)) = none ∧ marks true (ofMeta (some text)) = none := by
  rw [marks_ofMeta, marks_ofMeta]
  change diff? text.toList = none ↔ markedLines? '+' false text.toList = none ∧
    markedLines? '-' true text.toList = none
  rw [diff?]
  cases markedLines? '+' false text.toList <;> cases markedLines? '-' true text.toList <;> simp

/-- The marks are the lines of the longest list behind the first sign. -/
theorem marks_of_first (removed : Bool) (text : String) (front back : List Char)
    (n : WrittenNumbers)
    (hfirst : FirstPlace (SignAt removed) text.toList front (sign removed :: back))
    (hlongest : n.IsLongest back) : marks removed (ofMeta (some text)) = n.lines? := by
  have hfound := (searches_firstNumbers? (sign removed) removed).eq_look _ _ _
    (isSome_numbersAt?_iff removed) text.toList front (sign removed) back hfirst
  have hsign := (isSome_numbersAt?_iff removed front _).mpr hfirst.found
  rw [numbersAt?, Option.isSome_ite] at hsign
  rw [numbersAt?, if_pos hsign, numberRuns_of_isLongest n back hlongest] at hfound
  rw [marks_ofMeta, markedLines?_of_found _ _ _ n hfound]

/-- There are no marks without a sign. -/
theorem marks_of_no_sign (removed : Bool) (text : String)
    (h : ∀ front rest, front ++ rest = text.toList → ¬ SignAt removed front rest) :
    marks removed (ofMeta (some text)) = none := by
  have hnone := (searches_firstNumbers? (sign removed) removed).eq_none_of_no_place _ _ _
    (isSome_numbersAt?_iff removed) text.toList h
  rw [marks_ofMeta, markedLines?, hnone]
  rfl

end Directives

end CodeHighlight
