/-!
# Sets of characters given by ranges

A property of characters is a list of inclusive ranges of code points, ascending and disjoint.
`Ranges.contains` stops at the first range that begins above the code point.
-/

namespace CodeHighlight.Text

/-- Inclusive ranges of code points, ascending and disjoint. -/
abbrev Ranges := List (Nat × Nat)

namespace Ranges

/-- Membership of a code point. -/
def contains : Ranges → Nat → Bool
  | [], _ => false
  | (lo, hi) :: rest, n => if n < lo then false else n ≤ hi || contains rest n

/-- Each range is well formed and leaves a gap before the next one. -/
def Ascending : Ranges → Prop
  | [] => True
  | [(lo, hi)] => lo ≤ hi
  | (lo, hi) :: (lo', hi') :: rest => lo ≤ hi ∧ hi + 1 < lo' ∧ Ascending ((lo', hi') :: rest)

/-- Without the first range the others ascend. -/
theorem Ascending.tail {r : Nat × Nat} {rest : Ranges} (h : Ascending (r :: rest)) :
    Ascending rest := by
  cases rest with
  | nil => trivial
  | cons s more => exact h.2.2

end Ranges

end CodeHighlight.Text
