import CodeHighlight.LineSet
import CodeHighlight.Text.Blank
import CodeHighlight.Text.Digit

/-!
# Line selectors

A selector such as `1,3-5` is a list of items between commas. An item is a line number or two line
numbers joined by a hyphen, in either order; blanks may stand around an item. A selector with any
other text, or with a number that has too many digits, selects nothing at all.
-/

namespace CodeHighlight

/-- The two ends of an item, as runs of digits; a single line has no second run. -/
structure SelectorItem where
  first : List Char
  last : Option (List Char)
deriving Repr, DecidableEq

namespace SelectorItem

/-- Reads an item without blanks around it. -/
def ofChars? (text : List Char) : Option SelectorItem :=
  let first := text.takeWhile Text.isDigit
  if first.isEmpty then none else
  match text.dropWhile Text.isDigit with
  | [] => some ⟨first, none⟩
  | c :: last =>
    if c = '-' && !last.isEmpty && last.all Text.isDigit then some ⟨first, some last⟩ else none

/-- The two lines that an item names. -/
def ends? (item : SelectorItem) : Option (Int × Int) := do
  let first ← Text.readNumeral? item.first
  let last ← match item.last with
    | none => some first
    | some digits => Text.readNumeral? digits
  return (first, last)

end SelectorItem

namespace LineSet

/-- The items of a selector. -/
def items? (selector : List Char) : Option (List SelectorItem) :=
  (Text.splitAt ',' selector).mapM fun chunk => SelectorItem.ofChars? (Text.trim chunk)

/-- The set that a selector names. -/
def ofSelector? (selector : List Char) : Option LineSet := do
  let items ← items? selector
  let pairs ← items.mapM SelectorItem.ends?
  return ofPairs pairs

/-- The set that a selector names. -/
def ofSelectorText? (selector : String) : Option LineSet := ofSelector? selector.toList

end LineSet

end CodeHighlight
