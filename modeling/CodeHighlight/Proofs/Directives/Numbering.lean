import CodeHighlight.Proofs.Directives.Marks

/-!
# Marked and numbered lines of a text

A line number flag anywhere in a text switches the numbering on. The first flag with a colon and a
digit directly behind it says where the numbers begin; flags without a number are passed over. So
marks and numbers are decided each by its own first place in the text.
-/

namespace CodeHighlight.Directives

open Text (Digits)

/-- A line number flag with a colon and a digit directly behind it stands at a place. -/
def StartAt (_front rest : List Char) : Prop :=
  ∃ name ∈ numberFlags, ∃ back, rest = name ++ ':' :: back ∧
    Text.startsWith Text.isDigit back = true

/-- What is read behind a flag at a place. -/
def flagAt? {α : Type} (read : List Char → Option α) : Scanner α :=
  fun _ rest => (afterFlag? rest).bind read

/-- The lookup of flags takes what is read behind the first flag. -/
theorem searches_firstFlag? {α : Type} (read : List Char → Option α) :
    Searches (firstFlag? read) (flagAt? read) :=
  ⟨fun _ => rfl, fun _ _ _ => rfl⟩

/-- What follows a flag is what stands behind one of the two spellings. -/
theorem afterFlag?_eq_some_iff (text rest : List Char) :
    afterFlag? text = some rest ↔ ∃ name ∈ numberFlags, text = name ++ rest := by
  constructor
  · intro h
    obtain ⟨name, hname, rfl⟩ := Option.map_eq_some_iff.mp h
    have hprefix := List.find?_some hname
    obtain ⟨back, rfl⟩ := List.isPrefixOf_iff_prefix.mp hprefix
    exact ⟨name, List.mem_of_find?_eq_some hname, by rw [List.drop_left]⟩
  · rintro ⟨name, hname, rfl⟩
    have hflag : ∃ f : WrittenFlag, f.name = name := by
      rcases List.mem_cons.mp hname with rfl | hname
      · exact ⟨⟨true, none⟩, rfl⟩
      · exact ⟨⟨false, none⟩, (List.mem_singleton.mp hname).symm⟩
    obtain ⟨f, rfl⟩ := hflag
    exact afterFlag?_name f rest

/-- Behind a colon the whole run of digits is read. -/
theorem colonDigits?_run (d : Digits) (back : List Char)
    (h : Text.startsWith Text.isDigit back = false) :
    colonDigits? (':' :: (d.chars ++ back)) = some d.chars := by
  have hne : d.chars.isEmpty = false := List.isEmpty_eq_false_iff.mpr d.nonempty
  rw [colonDigits?, Text.takeWhile_run _ _ _ d.isDigit_of_mem h, hne]
  rfl

/-- Digits are read where a colon and a digit stand. -/
theorem isSome_colonDigits?_iff (text : List Char) :
    (colonDigits? text).isSome = true ↔
      ∃ back, text = ':' :: back ∧ Text.startsWith Text.isDigit back = true := by
  constructor
  · intro h
    rw [colonDigits?.eq_def] at h
    split at h
    · next back =>
      refine ⟨back, rfl, ?_⟩
      cases back with
      | nil => cases h
      | cons c more =>
        cases hc : Text.isDigit c with
        | true => exact hc
        | false =>
          rw [List.takeWhile_cons_of_neg (by simp [hc])] at h
          cases h
    · cases h
  · rintro ⟨back, rfl, hdigit⟩
    obtain ⟨d, rest, rfl, hrest⟩ := Digits.exists_front back hdigit
    rw [colonDigits?_run d rest hrest]
    rfl

/-- A start is found where a flag with a colon and a digit stands. -/
theorem isSome_flagAt?_start (front rest : List Char) :
    (flagAt? colonDigits? front.reverse rest).isSome = true ↔ StartAt front rest := by
  rw [flagAt?]
  constructor
  · intro h
    cases hflag : afterFlag? rest with
    | none =>
      rw [hflag] at h
      cases h
    | some behind =>
      rw [hflag, Option.bind_some, isSome_colonDigits?_iff] at h
      obtain ⟨back, rfl, hdigit⟩ := h
      obtain ⟨name, hname, rfl⟩ := (afterFlag?_eq_some_iff rest _).mp hflag
      exact ⟨name, hname, back, rfl, hdigit⟩
  · rintro ⟨name, hname, back, rfl, hdigit⟩
    rw [(afterFlag?_eq_some_iff _ _).mpr ⟨name, hname, rfl⟩, Option.bind_some,
      isSome_colonDigits?_iff]
    exact ⟨back, rfl, hdigit⟩

private theorem isSome_flagAt?_any (front rest : List Char) :
    (flagAt? (fun _ => some ()) front.reverse rest).isSome = true ↔
      ∃ name ∈ numberFlags, name <+: rest := by
  rw [flagAt?]
  constructor
  · intro h
    cases hflag : afterFlag? rest with
    | none =>
      rw [hflag] at h
      cases h
    | some behind =>
      obtain ⟨name, hname, rfl⟩ := (afterFlag?_eq_some_iff rest _).mp hflag
      exact ⟨name, hname, List.prefix_append _ _⟩
  · rintro ⟨name, hname, back, rfl⟩
    rw [(afterFlag?_eq_some_iff _ _).mpr ⟨name, hname, rfl⟩]
    rfl

/-- A flag occurs exactly if one of the two spellings is a part of the text. -/
theorem hasFlag_iff (text : List Char) :
    hasFlag text = true ↔ ∃ name ∈ numberFlags, name <:+: text := by
  have hend : ∀ front : List Char, ¬ ∃ name ∈ numberFlags, name <+: ([] : List Char) := by
    rintro - ⟨name, hname, hprefix⟩
    rw [List.prefix_nil] at hprefix
    subst hprefix
    exact absurd hname (by decide)
  rw [hasFlag_eq [], (searches_firstFlag? _).isSome_iff _ _ _ isSome_flagAt?_any hend]
  constructor
  · rintro ⟨front, rest, rfl, name, hname, back, rfl⟩
    exact ⟨name, hname, front, back, by rw [List.append_assoc]⟩
  · rintro ⟨name, hname, front, back, rfl⟩
    exact ⟨front, name ++ back, by rw [List.append_assoc], name, hname, List.prefix_append _ _⟩

/-- The digits at the first start are found. -/
theorem firstStart?_of_first (text front name : List Char) (d : Digits) (back : List Char)
    (hname : name ∈ numberFlags) (hback : Text.startsWith Text.isDigit back = false)
    (hfirst : FirstPlace StartAt text front (name ++ ':' :: (d.chars ++ back))) :
    firstStart? text = some d.chars := by
  have hlook : flagAt? colonDigits? front.reverse (name ++ ':' :: (d.chars ++ back)) =
      some d.chars := by
    rw [flagAt?, (afterFlag?_eq_some_iff _ _).mpr ⟨name, hname, rfl⟩, Option.bind_some,
      colonDigits?_run d back hback]
  rw [firstStart?_eq [], ← hlook]
  cases name with
  | nil => exact absurd hname (by decide)
  | cons c more =>
    exact (searches_firstFlag? colonDigits?).eq_look _ _ _ isSome_flagAt?_start text front c _
      hfirst

private theorem firstStart?_of_no_start (text : List Char)
    (h : ∀ front rest, front ++ rest = text → ¬ StartAt front rest) : firstStart? text = none := by
  rw [firstStart?_eq []]
  exact (searches_firstFlag? colonDigits?).eq_none_of_no_place _ _ _ isSome_flagAt?_start text h

/-- How a text decides the added or the removed lines. -/
structure MarksRead (removed : Bool) (text : String) : Prop where
  /-- Where there is a sign there is a first one, and a longest list of numbers behind it. -/
  exists_first : ∀ front rest, front ++ rest = text.toList → SignAt removed front rest →
    ∃ front back numbers, FirstPlace (SignAt removed) text.toList front (sign removed :: back) ∧
      WrittenNumbers.IsLongest numbers back
  /-- Lines are marked if there is a sign and no number of that list is too long. -/
  isSome_iff : (marks removed (ofMeta (some text))).isSome = true ↔
    ∃ front back numbers, FirstPlace (SignAt removed) text.toList front (sign removed :: back) ∧
      WrittenNumbers.IsLongest numbers back ∧ numbers.Readable
  /-- The marked lines are the numbers of that list. -/
  mem_iff : ∀ front back numbers,
    FirstPlace (SignAt removed) text.toList front (sign removed :: back) →
    WrittenNumbers.IsLongest numbers back →
    ∀ lines, marks removed (ofMeta (some text)) = some lines →
      numbers.Readable ∧ ∀ n, n ∈ lines ↔ ∃ d ∈ numbers.numbers, n = d.value

/-- How a text decides the numbering of lines. -/
structure NumberingRead (text : String) : Prop where
  /-- Lines are numbered if a flag occurs. -/
  isSome_iff : (ofMeta (some text)).numbering.isSome = true ↔
    ∃ name ∈ numberFlags, name <:+: text.toList
  /-- Where there is a flag with a number there is a first one, and a whole run of digits in it. -/
  exists_start : ∀ front rest, front ++ rest = text.toList → StartAt front rest →
    ∃ front name, ∃ d : Digits, ∃ back, name ∈ numberFlags ∧
      Text.startsWith Text.isDigit back = false ∧
      FirstPlace StartAt text.toList front (name ++ ':' :: (d.chars ++ back))
  /-- The numbers begin with the one that the run writes, or with one if the run is too long. -/
  start : ∀ front name (d : Digits) back, name ∈ numberFlags →
    Text.startsWith Text.isDigit back = false →
    FirstPlace StartAt text.toList front (name ++ ':' :: (d.chars ++ back)) →
    (ofMeta (some text)).numbering = some (if d.Readable then d.value else 1)
  /-- Without a number they begin with one. -/
  no_start : (∀ front rest, front ++ rest = text.toList → ¬ StartAt front rest) →
    ∀ n, (ofMeta (some text)).numbering = some n → n = 1

private theorem marksRead (removed : Bool) (text : String) : MarksRead removed text := by
  have hexists : ∀ front rest, front ++ rest = text.toList → SignAt removed front rest →
      ∃ front back numbers, FirstPlace (SignAt removed) text.toList front (sign removed :: back) ∧
        WrittenNumbers.IsLongest numbers back := by
    intro front rest htext hsign
    obtain ⟨start, behind, hfirst⟩ := exists_firstPlace _ _ front rest htext hsign
    obtain ⟨back, rfl, hdigit, -⟩ := hfirst.found
    obtain ⟨numbers, hlongest⟩ := exists_longest back hdigit
    exact ⟨start, back, numbers, hfirst, hlongest⟩
  refine ⟨hexists, ?_, ?_⟩
  · constructor
    · intro hsome
      by_cases hsign : ∃ front rest, front ++ rest = text.toList ∧ SignAt removed front rest
      · obtain ⟨front, rest, htext, hsign⟩ := hsign
        obtain ⟨start, back, numbers, hfirst, hlongest⟩ := hexists front rest htext hsign
        rw [marks_of_first removed text start back numbers hfirst hlongest,
          numbers.isSome_lines?_iff] at hsome
        exact ⟨start, back, numbers, hfirst, hlongest, hsome⟩
      · rw [marks_of_no_sign removed text fun front rest htext hat =>
          hsign ⟨front, rest, htext, hat⟩] at hsome
        cases hsome
    · rintro ⟨front, back, numbers, hfirst, hlongest, hreadable⟩
      rw [marks_of_first removed text front back numbers hfirst hlongest,
        numbers.isSome_lines?_iff]
      exact hreadable
  · intro front back numbers hfirst hlongest lines hlines
    rw [marks_of_first removed text front back numbers hfirst hlongest] at hlines
    exact numbers.mem_lines lines hlines

private theorem numberingRead (text : String) : NumberingRead text := by
  have hnumbering : (ofMeta (some text)).numbering = numbering? text.toList := rfl
  refine ⟨?_, ?_, ?_, ?_⟩
  · rw [hnumbering, numbering?, Option.isSome_ite, hasFlag_iff]
  · intro front rest htext hstart
    obtain ⟨start, behind, hfirst⟩ := exists_firstPlace _ _ front rest htext hstart
    obtain ⟨name, hname, more, rfl, hdigit⟩ := hfirst.found
    obtain ⟨d, back, rfl, hback⟩ := Digits.exists_front more hdigit
    exact ⟨start, name, d, back, hname, hback, hfirst⟩
  · intro front name d back hname hback hfirst
    have hflag : hasFlag text.toList = true :=
      (hasFlag_iff _).mpr ⟨name, hname, front, ':' :: (d.chars ++ back), by
        rw [List.append_assoc, hfirst.text_eq]⟩
    rw [hnumbering, numbering?, if_pos hflag,
      firstStart?_of_first text.toList front name d back hname hback hfirst, Option.bind_some,
      d.readNumeral?_chars]
    by_cases hd : d.Readable
    · rw [if_pos hd, if_pos hd]
      rfl
    · rw [if_neg hd, if_neg hd]
      rfl
  · intro hnone n hn
    rw [hnumbering, numbering?, firstStart?_of_no_start text.toList hnone,
      Option.ite_none_right_eq_some] at hn
    exact (Option.some.inj hn.2).symm

/-- Added and removed lines are decided by the first sign of their kind with a digit directly behind
it, and are the numbers of the longest list there; there are no marks when there are none of either
kind. Lines are numbered if a flag occurs, from the number of the first flag that has one. -/
theorem ofMeta_reads_marks_and_numbering (text : String) :
    MarksRead false text ∧ MarksRead true text ∧
      ((ofMeta (some text)).diff = none ↔
        marks false (ofMeta (some text)) = none ∧ marks true (ofMeta (some text)) = none) ∧
      NumberingRead text :=
  ⟨marksRead false text, marksRead true text, diff_ofMeta_eq_none_iff text, numberingRead text⟩

/-- Behind the first flag a blank stands before the number. -/
example : numbering? "lineNumbers: 5 showLineNumbers:07,8".toList = some 7 := by decide +kernel

end CodeHighlight.Directives
