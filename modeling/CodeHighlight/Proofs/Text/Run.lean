import CodeHighlight.Text.Blank
import CodeHighlight.Text.Digit

/-!
# Runs of characters

A run of characters of one class ends where a character of another class follows. Decimal digits are
one such class: none of them is a blank. Blanks around a text are trimmed.
-/

namespace CodeHighlight.Text

/-- The text begins with a character of the class. -/
def startsWith (p : Char → Bool) (text : List Char) : Bool := text.head?.any p

/-- A text that is not empty begins as its first part does. -/
theorem startsWith_append (p : Char → Bool) (front back : List Char) (h : front ≠ []) :
    startsWith p (front ++ back) = startsWith p front := by
  cases front with
  | nil => exact absurd rfl h
  | cons c rest => rfl

/-- A run is taken as a whole. -/
theorem takeWhile_run (p : Char → Bool) (run rest : List Char) (hrun : ∀ c ∈ run, p c = true)
    (hrest : startsWith p rest = false) : (run ++ rest).takeWhile p = run := by
  rw [List.takeWhile_append_of_pos hrun]
  cases rest with
  | nil => rw [List.takeWhile_nil, List.append_nil]
  | cons c more =>
    have hc : ¬ p c = true := by simpa [startsWith] using hrest
    rw [List.takeWhile_cons_of_neg hc, List.append_nil]

/-- A run is dropped as a whole. -/
theorem dropWhile_run (p : Char → Bool) (run rest : List Char) (hrun : ∀ c ∈ run, p c = true)
    (hrest : startsWith p rest = false) : (run ++ rest).dropWhile p = rest := by
  rw [List.dropWhile_append_of_pos hrun]
  cases rest with
  | nil => exact List.dropWhile_nil
  | cons c more =>
    have hc : ¬ p c = true := by simpa [startsWith] using hrest
    exact List.dropWhile_cons_of_neg hc

/-- Blanks on both sides of a text without blanks are trimmed. -/
theorem trim_between (left mid right : List Char) (hleft : ∀ c ∈ left, isBlank c = true)
    (hright : ∀ c ∈ right, isBlank c = true) (hmid : ∀ c ∈ mid, isBlank c = false)
    (hne : mid ≠ []) : trim (left ++ mid ++ right) = mid := by
  have hstart : ∀ text : List Char, text ≠ [] → (∀ c ∈ text, isBlank c = false) →
      ∀ back, startsWith isBlank (text ++ back) = false := by
    intro text hn ht back
    rw [startsWith_append isBlank text back hn]
    cases text with
    | nil => rfl
    | cons c rest => exact ht c List.mem_cons_self
  have htrimLeft : trimLeft (left ++ mid ++ right) = mid ++ right := by
    rw [trimLeft, List.append_assoc]
    exact dropWhile_run isBlank left (mid ++ right) hleft (hstart mid hne hmid right)
  have hdrop : (right.reverse ++ mid.reverse).dropWhile isBlank = mid.reverse := by
    apply dropWhile_run
    · intro c hc
      exact hright c (List.mem_reverse.mp hc)
    · have hmidReverse := hstart mid.reverse (List.reverse_ne_nil_iff.mpr hne)
        (fun c hc => hmid c (List.mem_reverse.mp hc)) []
      rwa [List.append_nil] at hmidReverse
  rw [trim, htrimLeft, trimRight, List.reverse_append, hdrop, List.reverse_reverse]

private theorem isBlank_of_mem_takeWhile (text : List Char) :
    ∀ c ∈ text.takeWhile isBlank, isBlank c = true := fun c hc =>
  List.all_eq_true.mp List.all_takeWhile c hc

/-- What trimming takes away behind the blanks at the front are blanks at the end. -/
theorem exists_trimLeft (text : List Char) : ∃ right, (∀ c ∈ right, isBlank c = true) ∧
    trimLeft text = trim text ++ right := by
  refine ⟨((trimLeft text).reverse.takeWhile isBlank).reverse, ?_, ?_⟩
  · intro c hc
    exact isBlank_of_mem_takeWhile _ c (List.mem_reverse.mp hc)
  · rw [trim, trimRight, ← List.reverse_append, List.takeWhile_append_dropWhile,
      List.reverse_reverse]

/-- What trimming takes away are blanks on both sides. -/
theorem exists_trim (text : List Char) : ∃ left right, (∀ c ∈ left, isBlank c = true) ∧
    (∀ c ∈ right, isBlank c = true) ∧ text = left ++ trim text ++ right := by
  obtain ⟨right, hright, htext⟩ := exists_trimLeft text
  refine ⟨text.takeWhile isBlank, right, isBlank_of_mem_takeWhile text, hright, ?_⟩
  rw [List.append_assoc, ← htext, trimLeft, List.takeWhile_append_dropWhile]

/-- A class of code points that leaves out the ten from each zero on holds no digit. -/
theorem eq_false_of_isDigit (p : Nat → Bool)
    (hp : ∀ z ∈ zeros, ∀ i ∈ List.range 10, p (z + i) = false) (c : Char)
    (h : isDigit c = true) : p c.toNat = false := by
  rw [isDigit, digitValue?, Option.isSome_map, List.find?_isSome] at h
  obtain ⟨z, hz, hc⟩ := h
  rw [Bool.and_eq_true, decide_eq_true_eq, decide_eq_true_eq] at hc
  have hin : c.toNat - z ∈ List.range 10 := List.mem_range.mpr (by omega)
  have hout := hp z hz _ hin
  rwa [Nat.add_sub_cancel' hc.1] at hout

/-- No digit is a blank. -/
theorem isBlank_of_isDigit (c : Char) (h : isDigit c = true) : isBlank c = false :=
  eq_false_of_isDigit blankRanges.contains (by decide +kernel) c h

/-- An ASCII character is a digit only from `0` to `9`. -/
theorem isDigit_eq_false (c : Char)
    (h : (c.toNat < 0x30 || 0x39 < c.toNat && c.toNat < 0x80) = true) : isDigit c = false := by
  cases hdigit : isDigit c with
  | false => rfl
  | true =>
    have hout := eq_false_of_isDigit (fun n => n < 0x30 || 0x39 < n && n < 0x80)
      (by decide +kernel) c hdigit
    exact absurd (h.symm.trans hout) (by decide)

/-- A run of decimal digits, at least one. -/
structure Digits where
  chars : List Char
  nonempty : chars ≠ []
  isDigit_of_mem : ∀ c ∈ chars, isDigit c = true

namespace Digits

/-- The number that the digits write. -/
def value (d : Digits) : Nat := numeralValue d.chars

/-- The run is not too long to be read. -/
def Readable (d : Digits) : Prop := d.chars.length ≤ numeralLimit

instance (d : Digits) : Decidable d.Readable :=
  inferInstanceAs (Decidable (d.chars.length ≤ numeralLimit))

/-- A run is read unless it is too long. -/
theorem readNumeral?_chars (d : Digits) :
    readNumeral? d.chars = if d.Readable then some d.value else none := rfl

/-- A character that is no digit is not in the run. -/
theorem not_mem (d : Digits) (c : Char) (h : isDigit c = false) : c ∉ d.chars := by
  intro hc
  rw [d.isDigit_of_mem c hc] at h
  cases h

/-- A text that begins with a digit begins with a run that no digit follows. -/
theorem exists_front (text : List Char) (h : startsWith isDigit text = true) :
    ∃ (d : Digits) (rest : List Char), text = d.chars ++ rest ∧
      startsWith isDigit rest = false := by
  have hne : text.takeWhile isDigit ≠ [] := by
    cases text with
    | nil => cases h
    | cons c rest =>
      have hc : isDigit c = true := h
      rw [List.takeWhile_cons_of_pos hc]
      exact List.cons_ne_nil _ _
  refine ⟨⟨_, hne, List.all_eq_true.mp List.all_takeWhile⟩, text.dropWhile isDigit,
    List.takeWhile_append_dropWhile.symm, ?_⟩
  cases hdrop : text.dropWhile isDigit with
  | nil => rfl
  | cons c rest =>
    have hc := List.head?_dropWhile_not isDigit text
    rw [hdrop] at hc
    simpa [startsWith] using hc

/-- The first character is a digit. -/
theorem exists_cons (d : Digits) : ∃ c rest, d.chars = c :: rest ∧ isDigit c = true := by
  cases h : d.chars with
  | nil => exact absurd h d.nonempty
  | cons c rest => exact ⟨c, rest, rfl, d.isDigit_of_mem c (by rw [h]; exact List.mem_cons_self)⟩

/-- The last character is a digit. -/
theorem exists_reverse_cons (d : Digits) :
    ∃ c rest, d.chars.reverse = c :: rest ∧ isDigit c = true := by
  cases h : d.chars.reverse with
  | nil => exact absurd (List.reverse_eq_nil_iff.mp h) d.nonempty
  | cons c rest =>
    have hc : c ∈ d.chars := by
      rw [← List.mem_reverse, h]
      exact List.mem_cons_self
    exact ⟨c, rest, rfl, d.isDigit_of_mem c hc⟩

end Digits

/-- What was written from a list is read if all its members are, and to what each of them is. -/
theorem mapM_written {α β γ : Type} (write : α → β) (read : β → Option γ) (value : α → γ)
    (ok : α → Prop) [DecidablePred ok]
    (h : ∀ a, read (write a) = if ok a then some (value a) else none) (l : List α) :
    (l.map write).mapM read = if ∀ a ∈ l, ok a then some (l.map value) else none := by
  induction l with
  | nil => simp
  | cons a rest ih =>
    rw [List.map_cons, List.mapM_cons, h a, ih]
    by_cases ha : ok a
    · by_cases hrest : ∀ b ∈ rest, ok b
      · rw [if_pos ha, if_pos hrest, if_pos (List.forall_mem_cons.mpr ⟨ha, hrest⟩)]
        rfl
      · rw [if_pos ha, if_neg hrest, if_neg fun hall => hrest (List.forall_mem_cons.mp hall).2]
        rfl
    · rw [if_neg ha, if_neg fun hall => ha (List.forall_mem_cons.mp hall).1]
      rfl

/-- What was written from a list is read, if each member is read as what it was. -/
theorem mapM_map_some {α β : Type} (write : α → β) (read : β → Option α) (l : List α)
    (h : ∀ a ∈ l, read (write a) = some a) : (l.map write).mapM read = some l := by
  induction l with
  | nil => rfl
  | cons a rest ih =>
    rw [List.map_cons, List.mapM_cons, h a List.mem_cons_self,
      ih fun b hb => h b (List.mem_cons_of_mem _ hb)]
    rfl

end CodeHighlight.Text
