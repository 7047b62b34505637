import CodeHighlight.Proofs.Text.Split
import CodeHighlight.Text.Units

/-!
# Positions in a text

A position is the number of a line and the sixteen-bit units before it in that line. A piece of text
without line feeds that stands behind some text stands in one line, and there it is the slice of the
line that begins at the position behind the text before it.
-/

namespace CodeHighlight.Text

/-- The sixteen-bit code units of a character. -/
def charCodes (c : Char) : List Nat :=
  if c.toNat < 0x10000 then [c.toNat]
  else [0xD800 + (c.toNat - 0x10000) / 0x400, 0xDC00 + (c.toNat - 0x10000) % 0x400]

/-- The sixteen-bit code units of a text. -/
def codeUnits (text : List Char) : List Nat := text.flatMap charCodes

private theorem codeUnits_append (a b : List Char) :
    codeUnits (a ++ b) = codeUnits a ++ codeUnits b :=
  List.flatMap_append

/-- The number of code units is what the ranges count. -/
@[simp] theorem length_codeUnits (text : List Char) : (codeUnits text).length = units text := by
  induction text with
  | nil => rfl
  | cons c rest ih =>
    have hone : (charCodes c).length = charUnits c := by
      rw [charCodes, charUnits]
      split <;> rfl
    rw [codeUnits, List.flatMap_cons, List.length_append, ← codeUnits, ih, hone, units]

/-- The slice of a text from one code unit to another. -/
def slice (text : List Char) (first last : Nat) : List Nat :=
  ((codeUnits text).drop first).take (last - first)

/-- A middle part is a slice. -/
theorem slice_middle (front mid back : List Char) :
    slice (front ++ mid ++ back) (units front) (units front + units mid) = codeUnits mid := by
  rw [slice, List.append_assoc, codeUnits_append, codeUnits_append, Nat.add_sub_cancel_left,
    List.drop_left' (length_codeUnits front), List.take_left' (length_codeUnits mid)]

/-- The number of a line, and the units before a position in that line. -/
structure Position where
  line : Nat := 0
  column : Nat := 0
deriving Repr, DecidableEq

namespace Position

/-- The position behind a character. -/
def next (p : Position) (c : Char) : Position :=
  if c = '\n' then ⟨p.line + 1, 0⟩ else ⟨p.line, p.column + charUnits c⟩

/-- The position behind a text. -/
def after (p : Position) (text : List Char) : Position := text.foldl next p

/-- Behind two texts is behind the second, when one stands behind the first. -/
theorem after_append (p : Position) (a b : List Char) : p.after (a ++ b) = (p.after a).after b :=
  List.foldl_append

/-- A character first, then the others. -/
theorem after_cons (p : Position) (c : Char) (rest : List Char) :
    p.after (c :: rest) = (p.next c).after rest := rfl

/-- A text without line feeds stays in its line. -/
theorem after_of_not_mem (p : Position) (text : List Char) (h : '\n' ∉ text) :
    p.after text = ⟨p.line, p.column + units text⟩ := by
  induction text generalizing p with
  | nil => rfl
  | cons c rest ih =>
    rw [List.mem_cons, not_or] at h
    have hc : c ≠ '\n' := fun e => h.1 e.symm
    rw [after_cons, ih _ h.2, next, if_neg hc, units, Nat.add_assoc]

/-- From a position on, the lines are counted on, and units as long as no line begins. -/
theorem after_eq (p : Position) (text : List Char) :
    p.after text = ⟨p.line + (after {} text).line,
      (if (after {} text).line = 0 then p.column else 0) + (after {} text).column⟩ := by
  induction text generalizing p with
  | nil => rfl
  | cons c rest ih =>
    rw [after_cons, after_cons, ih (p.next c), ih (next {} c)]
    by_cases hc : c = '\n'
    · simp [next, hc, Nat.add_assoc]
    · simp only [next, if_neg hc, Nat.zero_add]
      split
      · rw [Nat.add_assoc]
      · simp only [Nat.zero_add]

end Position

/-- The lines of a text that follows another one: those above the place between the two, the line of
this place, which goes on with the first line of what follows, and the others. -/
theorem exists_splitAt_append (before rest first : List Char) (more : List (List Char))
    (h : splitAt '\n' rest = first :: more) :
    ∃ above front, splitAt '\n' (before ++ rest) = above ++ (front ++ first) :: more ∧
      Position.after {} before = ⟨above.length, units front⟩ ∧
      above.flatten ++ front = before.filter (· ≠ '\n') := by
  induction before with
  | nil => exact ⟨[], [], h, rfl, rfl⟩
  | cons c before ih =>
    obtain ⟨above, front, hsplit, hplace, hflat⟩ := ih
    rw [Position.after_cons, Position.after_eq, hplace, List.cons_append, splitAt, hsplit]
    by_cases hc : c = '\n'
    · refine ⟨[] :: above, front, ?_, ?_, ?_⟩
      · rw [if_pos hc, List.cons_append]
      · simp [Position.next, hc, Nat.add_comm]
      · rw [List.filter_cons_of_neg (by simpa using hc), ← hflat, List.flatten_cons,
          List.nil_append]
    · rw [if_neg hc, List.filter_cons_of_pos (by simpa using hc), ← hflat, Position.next, if_neg hc]
      cases above with
      | nil => exact ⟨[], c :: front, rfl, by simp [units], rfl⟩
      | cons line above => exact ⟨(c :: line) :: above, front, rfl, by simp, rfl⟩

/-- A piece without line feeds is the slice of a line that begins at the position behind the text
before it. -/
theorem exists_line_slice (before mid after : List Char) (hm : '\n' ∉ mid) :
    ∃ line, (splitAt '\n' (before ++ mid ++ after))[(Position.after {} before).line]? = some line ∧
      (Position.after {} before).column + units mid ≤ (codeUnits line).length ∧
      slice line (Position.after {} before).column ((Position.after {} before).column + units mid) =
        codeUnits mid := by
  cases hs : splitAt '\n' after with
  | nil => exact absurd hs (splitAt_ne_nil '\n' after)
  | cons back more =>
    obtain ⟨above, front, hsplit, hplace, -⟩ := exists_splitAt_append before (mid ++ after)
      (mid ++ back) more (splitAt_append_of_not_mem '\n' mid after back more hm hs)
    rw [← List.append_assoc, ← List.append_assoc] at hsplit
    rw [hplace, hsplit]
    refine ⟨front ++ mid ++ back, ?_, ?_, slice_middle front mid back⟩
    · rw [List.getElem?_append_right (Nat.le_refl _), Nat.sub_self, List.getElem?_cons_zero]
    · rw [length_codeUnits, units_append, units_append]
      exact Nat.le_add_right _ _

end CodeHighlight.Text
