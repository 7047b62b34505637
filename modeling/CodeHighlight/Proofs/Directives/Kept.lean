import CodeHighlight.Proofs.Directives.Meta
import CodeHighlight.Proofs.LineSet.Members
import CodeHighlight.Proofs.LineSet.Selected

/-!
# Kept selectors

The selector of the highlighted lines is kept as text, without the blanks around its items. Read
again it names the same lines, and in braces of its own it is kept as it is and asks for nothing
else: the hyphens of its ranges are no signs of removed lines.
-/

namespace CodeHighlight

namespace WrittenItem

/-- All characters of the empty text are blanks. -/
theorem isBlank_of_mem_nil : ∀ c ∈ ([] : List Char), Text.isBlank c = true :=
  List.forall_mem_nil _

/-- The item without the blanks on both sides. -/
def stripped (i : WrittenItem) : WrittenItem where
  left := []
  first := i.first
  last := i.last
  right := []
  left_blank := isBlank_of_mem_nil
  right_blank := isBlank_of_mem_nil

/-- A stripped item is written bare. -/
theorem text_stripped (i : WrittenItem) : i.stripped.text = i.bare := by
  rw [text, stripped, List.nil_append, List.append_nil]
  rfl

/-- No blank is in a bare item. -/
theorem isBlank_of_mem_bare (i : WrittenItem) (c : Char) (h : c ∈ i.bare) :
    Text.isBlank c = false := by
  rcases i.mem_bare c h with hdigit | rfl
  · exact Text.isBlank_of_isDigit c hdigit
  · decide

end WrittenItem

namespace WrittenSelector

/-- The selector without the blanks around its items. -/
def stripped (s : WrittenSelector) : WrittenSelector where
  items := s.items.map WrittenItem.stripped
  nonempty := fun h => s.nonempty (List.map_eq_nil_iff.mp h)

/-- A stripped selector is written bare. -/
theorem text_stripped (s : WrittenSelector) : s.stripped.text = s.bare := by
  rw [text, stripped, bare, List.map_map]
  congr 1
  exact List.map_congr_left fun i _ => i.text_stripped

/-- Without blanks a selector is what it was bare. -/
theorem bare_stripped (s : WrittenSelector) : s.stripped.bare = s.bare := by
  rw [bare, stripped, bare, List.map_map]
  rfl

/-- The numbers of a selector are no longer without blanks. -/
theorem readable_stripped (s : WrittenSelector) : s.stripped.Readable ↔ s.Readable :=
  List.forall_mem_map

/-- A selector names the same lines without blanks. -/
theorem lines_stripped (s : WrittenSelector) : s.stripped.lines = s.lines := by
  rw [lines, stripped, lines, List.map_map]
  rfl

/-- No blank is in a bare selector. -/
theorem isBlank_of_mem_bare (s : WrittenSelector) (c : Char) (h : c ∈ s.bare) :
    Text.isBlank c = false := by
  rcases Text.mem_joinWith _ _ c h with hcomma | ⟨piece, hpiece, hin⟩
  · rw [List.mem_singleton.mp hcomma]
    decide
  · obtain ⟨i, -, rfl⟩ := List.mem_map.mp hpiece
    exact i.isBlank_of_mem_bare c hin

/-- A selector names some line. -/
theorem isEmpty_lines (s : WrittenSelector) : s.lines.isEmpty = false := by
  have hcanonical : s.lines.Canonical := LineSet.canonical_ofPairs _
  rw [hcanonical.isEmpty_eq_false_iff]
  cases hitems : s.items with
  | nil => exact absurd hitems s.nonempty
  | cons i rest =>
    refine ⟨i.ends.1, (s.mem_lines _).mpr ⟨i, ?_, (i.names_iff _).mpr ?_⟩⟩
    · rw [hitems]
      exact List.mem_cons_self
    · omega

end WrittenSelector

namespace Directives

/-- A selector that is found is kept bare, unless one of its numbers is too long. -/
theorem highlighted?_of_found (text : List Char) (w : WrittenSelector)
    (h : firstGroup? false [] text = some w.text) :
    highlighted? text = if w.Readable then some (String.ofList w.bare) else none := by
  rw [highlighted?, h]
  by_cases hw : w.Readable
  · simp [w.ofSelector?_text, w.joinWith_trim_text, hw]
  · simp [w.ofSelector?_text, hw]

/-- A kept selector is the bare form of the one in the first closed group that does not follow the
focus keyword. -/
theorem exists_of_highlighted (text s : String) (h : (ofMeta (some text)).highlighted = some s) :
    ∃ (g : ClosedGroup) (w : WrittenSelector), g.IsFirst false text.toList ∧ w.text = g.body ∧
      w.Readable ∧ s = String.ofList w.bare := by
  change highlighted? text.toList = some s at h
  by_cases hgroup : ∃ g : ClosedGroup, g.text = text.toList ∧ g.focused = false
  · obtain ⟨other, htext, hkind⟩ := hgroup
    obtain ⟨g, hg⟩ := ClosedGroup.exists_isFirst false text.toList other htext hkind
    have hfound := firstGroup?_of_isFirst false text.toList g hg
    cases hlines : LineSet.ofSelector? g.body with
    | none =>
      rw [highlighted?, hfound] at h
      change (LineSet.ofSelector? g.body).bind _ = some s at h
      rw [hlines] at h
      cases h
    | some lines =>
      obtain ⟨w, hw⟩ := LineSet.exists_written g.body lines hlines
      rw [← hw] at hfound
      rw [highlighted?_of_found _ w hfound, Option.ite_none_right_eq_some] at h
      exact ⟨g, w, hg, hw, h.1, (Option.some.inj h.2).symm⟩
  · have hnone : firstGroup? false [] text.toList = none := by
      apply firstGroup?_of_no_group
      exact fun g htext hkind => hgroup ⟨g, htext, hkind⟩
    rw [highlighted?, hnone] at h
    cases h

/-- The selector as the only directive. -/
def alone (w : WrittenSelector) : WrittenChoice := { highlight := some w }

/-- All characters of the empty text may stand between directives. -/
theorem plain_of_mem_nil :
    ∀ c ∈ ([] : List Char), c ≠ '{' ∧ c ≠ '}' ∧ c.isAlpha = false ∧ Text.isDigit c = false :=
  List.forall_mem_nil _

/-- The separator without characters. -/
def noCharacters : Separator := ⟨[], plain_of_mem_nil⟩

/-- The selector in braces, with nothing around it. -/
def inBraces (w : WrittenSelector) : WrittenParts := [(.highlight w, noCharacters)]

private theorem signsApart_inBraces (w : WrittenSelector) :
    (inBraces w).SignsApart noCharacters := by
  intro front n s back hparts
  rw [inBraces, eq_comm, List.append_eq_singleton_iff] at hparts
  rcases hparts with ⟨-, hpart⟩ | ⟨-, hpart⟩
  · cases hpart
  · cases hpart

/-- Without blanks a selector in braces is read as what it is, and as nothing else. -/
theorem ofMeta_bare (w : WrittenSelector) (h : w.Readable) :
    ofMeta (some ("\x7b" ++ String.ofList w.bare ++ "\x7d")) =
      { highlighted := some (String.ofList w.bare) } := by
  have hperm : (inBraces w.stripped).directives.Perm (alone w.stripped).directives :=
    List.Perm.refl _
  have hapart := signsApart_inBraces w.stripped
  have htext : ("\x7b" ++ String.ofList w.bare ++ "\x7d").toList =
      noCharacters.chars ++ (inBraces w.stripped).text := by
    have hopen : "\x7b".toList = ['{'] := by decide
    have hclose : "\x7d".toList = ['}'] := by decide
    rw [String.toList_append, String.toList_append, hopen, hclose, String.toList_ofList, inBraces,
      WrittenParts.text_cons, WrittenDirective.text, WrittenDirective.group, w.text_stripped]
    simp [noCharacters, WrittenParts.text]
  have hdenotes : (alone w.stripped).denotes = { highlighted := some (String.ofList w.bare) } := by
    change Directives.mk (if w.stripped.Readable then some (String.ofList w.stripped.bare)
      else none) none none none = _
    rw [if_pos (w.readable_stripped.mpr h), w.bare_stripped]
  change ofChars ("\x7b" ++ String.ofList w.bare ++ "\x7d").toList = _
  rw [htext, ← hdenotes, ofChars, highlighted?_choice _ _ _ hperm hapart,
    numbering?_choice _ _ _ hperm hapart, diff?_choice _ _ _ hperm hapart,
    focus?_choice _ _ _ hperm hapart]

/-- What a selector that is kept from a text says when it is read again. -/
structure KeepsSelector (text s : String) : Prop where
  /-- It has no blanks. -/
  no_blank : ∀ c ∈ s.toList, Text.isBlank c = false
  /-- It names the lines of the group that it was read from, and at least one. -/
  lines : ∃ g : ClosedGroup, g.IsFirst false text.toList ∧ ∃ lines,
    (ofMeta (some text)).highlightedLines = some lines ∧ LineSet.ofSelector? g.body = some lines ∧
      lines.isEmpty = false
  /-- In braces it is kept as it is, and nothing else is read there. -/
  fixed : ofMeta (some ("\x7b" ++ s ++ "\x7d")) = { highlighted := some s }

/-- Every selector that is kept from a text is free of blanks, names the lines of its group and is
read again as it is. -/
theorem ofMeta_keeps_selector (text s : String)
    (h : (ofMeta (some text)).highlighted = some s) : KeepsSelector text s := by
  obtain ⟨g, w, hg, hbody, hreadable, rfl⟩ := exists_of_highlighted text s h
  have hgroup : LineSet.ofSelector? g.body = some w.lines := by
    rw [← hbody, w.ofSelector?_text, if_pos hreadable]
  have hkept : (ofMeta (some text)).highlightedLines = some w.lines := by
    rw [highlightedLines, h, Option.bind_some, LineSet.ofSelectorText?, String.toList_ofList,
      ← w.text_stripped, w.stripped.ofSelector?_text, if_pos (w.readable_stripped.mpr hreadable),
      w.lines_stripped]
  refine ⟨?_, ⟨g, hg, w.lines, hkept, hgroup, w.isEmpty_lines⟩, ofMeta_bare w hreadable⟩
  intro c hc
  rw [String.toList_ofList] at hc
  exact w.isBlank_of_mem_bare c hc

/-- Blanks around the items of a selector, a range that is written downwards and digits of two
scripts. -/
theorem ofMeta_keeps_selector_mixed :
    (ofMeta (some "+7\x7b ٣-1 ,\t02\x7dfocus\x7b9\x7d")).highlighted = some "٣-1,02" ∧
      KeepsSelector "+7\x7b ٣-1 ,\t02\x7dfocus\x7b9\x7d" "٣-1,02" := by
  have hread :
      (ofMeta (some "+7\x7b ٣-1 ,\t02\x7dfocus\x7b9\x7d")).highlighted = some "٣-1,02" := by
    decide +kernel
  exact ⟨hread, ofMeta_keeps_selector _ _ hread⟩

end Directives

end CodeHighlight
