import CodeHighlight.LineSelector
import CodeHighlight.Proofs.Text.Run
import CodeHighlight.Proofs.Text.Split

/-!
# Written selectors

The grammar of selectors: items between commas, each a line number or two line numbers joined by a
hyphen, with blanks around it. Every text of the grammar is read, unless one of its numbers has too
many digits, and every text that is read is one of the grammar.
-/

namespace CodeHighlight

open Text (Digits)

/-- An item of a selector, with the blanks on both sides. -/
structure WrittenItem where
  left : List Char
  first : Digits
  last : Option Digits
  right : List Char
  left_blank : ∀ c ∈ left, Text.isBlank c = true
  right_blank : ∀ c ∈ right, Text.isBlank c = true

namespace WrittenItem

/-- What follows the first number of an item. -/
def tail : Option Digits → List Char
  | none => []
  | some last => '-' :: last.chars

/-- The item without blanks. -/
def bare (i : WrittenItem) : List Char := i.first.chars ++ tail i.last

/-- The item as it is written. -/
def text (i : WrittenItem) : List Char := i.left ++ i.bare ++ i.right

/-- The numbers of the item. -/
def numbers (i : WrittenItem) : List Digits := i.first :: i.last.toList

/-- No number of the item is too long. -/
def Readable (i : WrittenItem) : Prop := ∀ d ∈ i.numbers, d.Readable

instance (i : WrittenItem) : Decidable i.Readable :=
  inferInstanceAs (Decidable (∀ d ∈ i.numbers, d.Readable))

/-- The two lines that the item names; a single line is named twice. -/
def ends (i : WrittenItem) : Int × Int := (i.first.value, (i.last.getD i.first).value)

/-- The item as it is read. -/
def read (i : WrittenItem) : SelectorItem := ⟨i.first.chars, i.last.map Digits.chars⟩

private theorem isDigit_hyphen : Text.isDigit '-' = false :=
  Text.isDigit_eq_false '-' (by decide)

private theorem startsWith_tail (last : Option Digits) :
    Text.startsWith Text.isDigit (tail last) = false := by
  cases last with
  | none => rfl
  | some digits => exact isDigit_hyphen

/-- An item without blanks is made of digits and a hyphen. -/
theorem mem_bare (i : WrittenItem) (c : Char) (h : c ∈ i.bare) :
    Text.isDigit c = true ∨ c = '-' := by
  rcases List.mem_append.mp h with hfirst | htail
  · exact Or.inl (i.first.isDigit_of_mem c hfirst)
  · cases hl : i.last with
    | none =>
      rw [hl] at htail
      cases htail
    | some last =>
      rw [hl] at htail
      rcases List.mem_cons.mp htail with hc | hlast
      · exact Or.inr hc
      · exact Or.inl (last.isDigit_of_mem c hlast)

/-- A character that is no digit, no hyphen and no blank does not occur in an item. -/
theorem not_mem_text (i : WrittenItem) (c : Char) (hdigit : Text.isDigit c = false)
    (hhyphen : c ≠ '-') (hblank : Text.isBlank c = false) : c ∉ i.text := by
  intro hc
  rw [text, List.mem_append, List.mem_append] at hc
  rcases hc with (hleft | hbare) | hright
  · rw [i.left_blank c hleft] at hblank
    cases hblank
  · rcases i.mem_bare c hbare with hd | he
    · rw [hd] at hdigit
      cases hdigit
    · exact hhyphen he
  · rw [i.right_blank c hright] at hblank
    cases hblank

/-- Trimming an item leaves it bare. -/
theorem trim_text (i : WrittenItem) : Text.trim i.text = i.bare := by
  apply Text.trim_between
  · exact i.left_blank
  · exact i.right_blank
  · intro c hc
    rcases i.mem_bare c hc with hd | he
    · exact Text.isBlank_of_isDigit c hd
    · rw [he]
      decide
  · exact List.append_ne_nil_of_left_ne_nil i.first.nonempty _

/-- A bare item is read as what it is. -/
theorem ofChars?_bare (i : WrittenItem) : SelectorItem.ofChars? i.bare = some i.read := by
  have hfirst : i.bare.takeWhile Text.isDigit = i.first.chars :=
    Text.takeWhile_run Text.isDigit _ _ i.first.isDigit_of_mem (startsWith_tail i.last)
  have hrest : i.bare.dropWhile Text.isDigit = tail i.last :=
    Text.dropWhile_run Text.isDigit _ _ i.first.isDigit_of_mem (startsWith_tail i.last)
  have hnonempty : i.first.chars.isEmpty = false := List.isEmpty_eq_false_iff.mpr i.first.nonempty
  rw [SelectorItem.ofChars?, hfirst, hrest, read]
  cases i.last with
  | none => simp [hnonempty, tail]
  | some last =>
    have hlast : last.chars.all Text.isDigit = true := List.all_eq_true.mpr last.isDigit_of_mem
    have hne : last.chars.isEmpty = false := List.isEmpty_eq_false_iff.mpr last.nonempty
    simp [hnonempty, tail, hlast, hne]

/-- The lines of an item are known unless one of its numbers is too long. -/
theorem ends?_read (i : WrittenItem) :
    i.read.ends? = if i.Readable then some i.ends else none := by
  have hreadable : i.Readable ↔ i.first.Readable ∧ ∀ d ∈ i.last, d.Readable := by
    rw [Readable, numbers, List.forall_mem_cons]
    simp only [Option.mem_toList, Option.mem_def]
  rw [SelectorItem.ends?, read, Digits.readNumeral?_chars]
  by_cases hfirst : i.first.Readable
  · rw [if_pos hfirst]
    cases hl : i.last with
    | none =>
      rw [if_pos (hreadable.mpr ⟨hfirst, by rw [hl]; simp⟩), ends, hl]
      rfl
    | some last =>
      by_cases hlast : last.Readable
      · rw [if_pos (hreadable.mpr ⟨hfirst, by rw [hl]; simpa using hlast⟩), ends, hl]
        simp [Digits.readNumeral?_chars, hlast]
      · rw [if_neg fun h => hlast ((hreadable.mp h).2 last hl)]
        simp [Digits.readNumeral?_chars, hlast]
  · rw [if_neg hfirst, if_neg fun h => hfirst (hreadable.mp h).1]
    rfl

/-- A chunk that is read as an item is a written item. -/
theorem exists_of_isSome (chunk : List Char)
    (h : (SelectorItem.ofChars? (Text.trim chunk)).isSome = true) :
    ∃ i : WrittenItem, i.text = chunk := by
  obtain ⟨left, right, hleft, hright, hchunk⟩ := Text.exists_trim chunk
  have hsplit : (Text.trim chunk).takeWhile Text.isDigit ++
      (Text.trim chunk).dropWhile Text.isDigit = Text.trim chunk := List.takeWhile_append_dropWhile
  rw [SelectorItem.ofChars?] at h
  by_cases hfirst : (Text.trim chunk).takeWhile Text.isDigit = []
  · rw [hfirst] at h
    cases h
  · have hdigits : ∀ c ∈ (Text.trim chunk).takeWhile Text.isDigit, Text.isDigit c = true :=
      fun c hc => List.all_eq_true.mp List.all_takeWhile c hc
    rw [if_neg (by simpa using hfirst)] at h
    cases hrest : (Text.trim chunk).dropWhile Text.isDigit with
    | nil =>
      refine ⟨⟨left, ⟨_, hfirst, hdigits⟩, none, right, hleft, hright⟩, ?_⟩
      rw [hrest] at hsplit
      rw [text, bare, tail, hsplit, ← hchunk]
    | cons c last =>
      rw [hrest] at h hsplit
      have hc : (c = '-' ∧ last.isEmpty = false) ∧ last.all Text.isDigit = true := by
        by_cases hlast : (decide (c = '-') && !last.isEmpty && last.all Text.isDigit) = true
        · simpa using hlast
        · dsimp only at h
          rw [if_neg hlast] at h
          cases h
      refine ⟨⟨left, ⟨_, hfirst, hdigits⟩, some ⟨last, List.isEmpty_eq_false_iff.mp hc.1.2,
        List.all_eq_true.mp hc.2⟩, right, hleft, hright⟩, ?_⟩
      rw [hc.1.1] at hsplit
      rw [text, bare, tail, hsplit, ← hchunk]

end WrittenItem

/-- A selector: items between commas, at least one. -/
structure WrittenSelector where
  items : List WrittenItem
  nonempty : items ≠ []

namespace WrittenSelector

/-- The selector as it is written. -/
def text (s : WrittenSelector) : List Char := Text.joinWith [','] (s.items.map WrittenItem.text)

/-- The selector without blanks. -/
def bare (s : WrittenSelector) : List Char := Text.joinWith [','] (s.items.map WrittenItem.bare)

/-- No number of the selector is too long. -/
def Readable (s : WrittenSelector) : Prop := ∀ i ∈ s.items, i.Readable

instance (s : WrittenSelector) : Decidable s.Readable :=
  inferInstanceAs (Decidable (∀ i ∈ s.items, i.Readable))

/-- The lines that the selector names. -/
def lines (s : WrittenSelector) : LineSet := LineSet.ofPairs (s.items.map WrittenItem.ends)

/-- A character that no item holds and that is no comma does not occur in a selector. -/
theorem not_mem_text (s : WrittenSelector) (c : Char) (hdigit : Text.isDigit c = false)
    (hmarks : c ≠ '-' ∧ c ≠ ',') (hblank : Text.isBlank c = false) : c ∉ s.text := by
  intro hc
  rcases Text.mem_joinWith _ _ c hc with hcomma | ⟨piece, hpiece, hin⟩
  · exact hmarks.2 (List.mem_singleton.mp hcomma)
  · obtain ⟨i, -, rfl⟩ := List.mem_map.mp hpiece
    exact i.not_mem_text c hdigit hmarks.1 hblank hin

/-- Cutting at the commas gives the items. -/
theorem splitAt_text (s : WrittenSelector) :
    Text.splitAt ',' s.text = s.items.map WrittenItem.text := by
  apply Text.splitAt_joinWith
  · exact fun h => s.nonempty (List.map_eq_nil_iff.mp h)
  · intro piece hpiece
    obtain ⟨i, -, rfl⟩ := List.mem_map.mp hpiece
    exact i.not_mem_text ',' (Text.isDigit_eq_false _ (by decide)) (by decide) (by decide)

/-- Trimming all items leaves the selector bare. -/
theorem joinWith_trim_text (s : WrittenSelector) :
    Text.joinWith [','] ((Text.splitAt ',' s.text).map Text.trim) = s.bare := by
  rw [splitAt_text, List.map_map, bare]
  congr 1
  exact List.map_congr_left fun i _ => i.trim_text

/-- All items are read. -/
theorem items?_text (s : WrittenSelector) :
    LineSet.items? s.text = some (s.items.map WrittenItem.read) := by
  have hread : ∀ i : WrittenItem, SelectorItem.ofChars? (Text.trim i.text) =
      if True then some i.read else none := by
    intro i
    rw [if_pos trivial, i.trim_text, i.ofChars?_bare]
  rw [LineSet.items?, splitAt_text,
    Text.mapM_written WrittenItem.text (fun chunk => SelectorItem.ofChars? (Text.trim chunk))
      WrittenItem.read (fun _ => True) hread,
    if_pos fun _ _ => trivial]

private theorem exists_items (chunks : List (List Char))
    (h : (chunks.mapM fun chunk => SelectorItem.ofChars? (Text.trim chunk)).isSome = true) :
    ∃ items : List WrittenItem, items.map WrittenItem.text = chunks := by
  induction chunks with
  | nil => exact ⟨[], rfl⟩
  | cons chunk rest ih =>
    rw [List.mapM_cons] at h
    cases hfirst : SelectorItem.ofChars? (Text.trim chunk) with
    | none =>
      rw [hfirst] at h
      cases h
    | some item =>
      obtain ⟨i, hi⟩ := WrittenItem.exists_of_isSome chunk (by rw [hfirst]; rfl)
      have hrest : (rest.mapM fun chunk =>
          SelectorItem.ofChars? (Text.trim chunk)).isSome = true := by
        rw [hfirst] at h
        cases hmore : rest.mapM fun chunk => SelectorItem.ofChars? (Text.trim chunk) with
        | none =>
          rw [hmore] at h
          cases h
        | some _ => rfl
      obtain ⟨items, hitems⟩ := ih hrest
      exact ⟨i :: items, by rw [List.map_cons, hi, hitems]⟩

/-- The texts that are read as items are those of the grammar. -/
theorem isSome_items?_iff (text : List Char) :
    (LineSet.items? text).isSome = true ↔ ∃ s : WrittenSelector, s.text = text := by
  constructor
  · intro h
    obtain ⟨items, hitems⟩ := exists_items (Text.splitAt ',' text) h
    have hne : items ≠ [] := by
      rintro rfl
      exact Text.splitAt_ne_nil ',' text hitems.symm
    refine ⟨⟨items, hne⟩, ?_⟩
    rw [WrittenSelector.text, hitems, Text.joinWith_splitAt]
  · rintro ⟨s, rfl⟩
    rw [s.items?_text]
    rfl

/-- A selector names its lines unless one of its numbers is too long. -/
theorem ofSelector?_text (s : WrittenSelector) :
    LineSet.ofSelector? s.text = if s.Readable then some s.lines else none := by
  rw [LineSet.ofSelector?, items?_text]
  change ((s.items.map WrittenItem.read).mapM SelectorItem.ends?).bind _ = _
  rw [Text.mapM_written _ _ _ _ WrittenItem.ends?_read]
  by_cases h : s.Readable
  · rw [if_pos h]
    unfold Readable at h
    rw [if_pos h]
    rfl
  · rw [if_neg h]
    unfold Readable at h
    rw [if_neg h]
    rfl

end WrittenSelector

end CodeHighlight
