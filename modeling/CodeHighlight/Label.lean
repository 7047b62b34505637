/-!
# Labels of code blocks

Every block that is rendered gets a label of its own: a fixed text, a hyphen and a running number.
-/

namespace CodeHighlight

/-- A counter that mints labels. -/
structure LabelCounter where
  stem : String := "hl"
  value : Nat := 0
deriving Repr, DecidableEq

namespace LabelCounter

/-- The label with a given number. -/
def label (c : LabelCounter) (n : Nat) : String := c.stem ++ "-" ++ toString n

/-- Mints the next label. -/
def next (c : LabelCounter) : String × LabelCounter :=
  (c.label (c.value + 1), { c with value := c.value + 1 })

/-- A mint moves the counter by one. -/
@[simp] theorem value_next (c : LabelCounter) : c.next.2.value = c.value + 1 := rfl

/-- A mint keeps the text of the labels. -/
@[simp] theorem stem_next (c : LabelCounter) : c.next.2.stem = c.stem := rfl

end LabelCounter

end CodeHighlight
