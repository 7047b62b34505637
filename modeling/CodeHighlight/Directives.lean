import CodeHighlight.LineSelector

/-!
# Directives of a code block

What the text behind a fence's language asks for: highlighted lines, line numbers, lines marked as
added or removed, and focused lines. An absent directive falls back to the default of the document.
-/

namespace CodeHighlight

/-- Lines marked as added or removed. -/
structure DiffMarks where
  added : Option LineSet := none
  removed : Option LineSet := none
deriving Repr, DecidableEq

/-- The directives of a block; none of them is required. -/
structure Directives where
  /-- The selector of the highlighted lines, without blanks. -/
  highlighted : Option String := none
  /-- The number of the first line, where lines are numbered. -/
  numbering : Option Int := none
  /-- Marked lines. -/
  diff : Option DiffMarks := none
  /-- Lines outside are blurred; an absent set blurs nothing. -/
  focus : Option LineSet := none
deriving Repr, DecidableEq

namespace Directives

/-- The lines that the highlight selector names, if it is present and well formed. -/
def highlightedLines (d : Directives) : Option LineSet :=
  d.highlighted.bind LineSet.ofSelectorText?

/-- No directive is present. -/
def isEmpty (d : Directives) : Bool :=
  d.highlighted.isNone && d.numbering.isNone && d.diff.isNone && d.focus.isNone

/-- Absent directives are taken from `defaults`. -/
def withDefaults (d defaults : Directives) : Directives where
  highlighted := d.highlighted.or defaults.highlighted
  numbering := d.numbering.or defaults.numbering
  diff := d.diff.or defaults.diff
  focus := d.focus.or defaults.focus

/-- Nothing is taken from empty defaults. -/
@[simp] theorem withDefaults_empty (d : Directives) : d.withDefaults {} = d := by
  simp [withDefaults]

/-- Defaults stand where nothing is said. -/
@[simp] theorem empty_withDefaults (d : Directives) : Directives.withDefaults {} d = d := by
  simp [withDefaults]

/-- Falling back is associative. -/
theorem withDefaults_assoc (a b c : Directives) :
    (a.withDefaults b).withDefaults c = a.withDefaults (b.withDefaults c) := by
  simp [withDefaults, Option.or_assoc]

end Directives

end CodeHighlight
