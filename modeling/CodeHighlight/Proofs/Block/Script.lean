import CodeHighlight.Proofs.Block.Pieces
import CodeHighlight.Proofs.Json.Guarded
import CodeHighlight.Proofs.Text.Split

/-!
# The script of a block, read again

The script holds two values: the label and an object with the ranges. Around them it is the same for
every block, and they are read as what was written, whatever characters the label holds.
-/

namespace CodeHighlight.Block

/-- The two values in a text with fixed parts before, between and behind them. -/
def readBetween? (head middle tail text : List Char) : Option (Json × Json) := do
  let text ← Text.behind? head text
  let (first, text) ← Json.value? (text.length + 1) text
  let text ← Text.behind? middle text
  let (second, text) ← Json.value? (text.length + 1) text
  if text = tail then some (first, second) else none

/-- The label and the ranges that a script holds. -/
def readScript? (text : List Char) : Option (Json × Json) :=
  readBetween? scriptHead.toList scriptMiddle.toList scriptTail.toList text

/-- The names and the ranges of the coloured keys, as the script holds them. -/
def rangesMembers (theme : Theme) (label : String) (ranges : RangeGroups) : List (String × Json) :=
  (ranges.groups.filter fun group => theme.rule group.1 ≠ "").map fun group =>
    (rangeName label group.1, .arr (group.2.map rangeValue))

/-- The ranges of the coloured keys are an object of these members. -/
theorem rangesValue_eq (theme : Theme) (label : String) (ranges : RangeGroups) :
    rangesValue theme label ranges = .obj (rangesMembers theme label ranges) := rfl

private theorem isWhole_rangesValue (theme : Theme) (label : String) (ranges : RangeGroups) :
    (rangesValue theme label ranges).isWhole = true := by
  have hitems (l : List LineRange) : Json.areWhole (l.map rangeValue) = true := by
    induction l with
    | nil => rfl
    | cons r rest ih =>
      rw [List.map_cons, Json.areWhole, ih]
      rfl
  have hmembers (l : List (String × List LineRange)) :
      Json.membersAreWhole (l.map fun group =>
        (rangeName label group.1, .arr (group.2.map rangeValue))) = true := by
    induction l with
    | nil => rfl
    | cons group rest ih =>
      rw [List.map_cons, Json.membersAreWhole, Json.isWhole, hitems, ih]
      rfl
  rw [rangesValue, Json.isWhole]
  exact hmembers _

private theorem readBetween?_append (head middle tail : List Char) (label : String) (v : Json)
    (hv : v.isWhole = true) (htail : Text.startsWith Json.continuesNumber tail = false) :
    readBetween? head middle tail
      (head ++ Json.string label ++ middle ++ guardClosing v.compact ++ tail) =
        some (.str label, v) := by
  have hvalue : Json.value? ((guardClosing v.compact ++ tail).length + 1)
      (guardClosing v.compact ++ tail) = some (v, tail) := by
    apply Json.value?_guarded v hv _ _ _ htail
    have hguard := length_le_guardClosing v.compact
    rw [List.length_append]
    omega
  simp only [readBetween?, List.append_assoc, Text.behind?_append, Json.value?_string, hvalue,
    Option.bind_eq_bind, Option.bind_some, if_true]

/-- A script is read as the label and the ranges that it was written for. -/
theorem readScript?_script (theme : Theme) (label : String) (ranges : RangeGroups) :
    readScript? (script theme label ranges) =
      some (.str label, rangesValue theme label ranges) := by
  have htail : Text.startsWith Json.continuesNumber scriptTail.toList = false := by
    unfold scriptTail
    simp only [String.toList_append, List.append_assoc]
    rw [Text.startsWith_append _ _ _ (by decide)]
    decide
  exact readBetween?_append _ _ _ label _ (isWhole_rangesValue theme label ranges) htail

end CodeHighlight.Block
