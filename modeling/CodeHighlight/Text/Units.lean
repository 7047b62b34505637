/-!
# Sixteen-bit code units

A character of the basic plane takes one unit, any other character two.
-/

namespace CodeHighlight.Text

/-- Sixteen-bit units of one character. -/
def charUnits (c : Char) : Nat := if c.toNat < 0x10000 then 1 else 2

/-- Sixteen-bit units of a text. -/
def units : List Char → Nat
  | [] => 0
  | c :: rest => charUnits c + units rest

/-- A character takes at least one unit. -/
theorem charUnits_pos (c : Char) : 0 < charUnits c := by
  unfold charUnits
  split <;> decide

/-- Units add up along a concatenation. -/
@[simp] theorem units_append (a b : List Char) : units (a ++ b) = units a + units b := by
  induction a with
  | nil => simp [units]
  | cons c rest ih => simp [units, ih, Nat.add_assoc]

/-- Only the empty text takes no unit. -/
theorem units_eq_zero {text : List Char} : units text = 0 ↔ text = [] := by
  cases text with
  | nil => simp [units]
  | cons c rest =>
    have := charUnits_pos c
    simp only [units, reduceCtorEq, iff_false]
    omega

end CodeHighlight.Text
