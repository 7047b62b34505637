import CodeHighlight.Yaml.Form

/-!
# Tags

A tag says what a node is. Nodes with marks or a tag of their own say so themselves; a plain scalar
is what its text looks like.
-/

namespace CodeHighlight.Yaml

/-- What a node is. -/
inductive Tag where
  | null
  | bool
  | int
  | float
  | binary
  | timestamp
  | text
  | sequence
  | mapping
  | set
  | orderedMapping
  | pairs
  /-- A key whose value is merged into its mapping. -/
  | merge
  /-- A key that stands for the value of its mapping. -/
  | value
  /-- A tag without meaning. -/
  | other (name : String)
deriving Repr, DecidableEq

namespace Tag

/-- What the names of the known tags begin with. -/
def stem : String := "tag:yaml.org,2002:"

/-- The known tags by the rest of their names. -/
def known : List (String × Tag) := [
  ("null", null), ("bool", bool), ("int", int), ("float", float), ("binary", binary),
  ("timestamp", timestamp), ("str", text), ("seq", sequence), ("map", mapping), ("set", set),
  ("omap", orderedMapping), ("pairs", pairs), ("merge", merge), ("value", value)]

/-- The tag with a name. -/
def ofName (name : String) : Tag :=
  match known.find? fun (rest, _) => stem ++ rest = name with
  | some (_, tag) => tag
  | none => other name

/-- The forms of plain scalars. -/
def forms : List (Pattern × Tag) := [
  (Form.bool, bool), (Form.float, float), (Form.int, int), (Pattern.text "<<", merge),
  (Form.null, null), (Form.timestamp, timestamp), (Pattern.text "=", value),
  (Pattern.among "!&*", other (stem ++ "yaml"))]

/-- What a plain scalar is: the first form that fits. A line feed at its end does not count. -/
def ofPlain (scalar : List Char) : Tag :=
  if scalar.isEmpty then null
  else
    match forms.find? fun (form, _) => (form ++ Pattern.textEnd).startsText scalar with
    | some (_, tag) => tag
    | none => text

end Tag

end CodeHighlight.Yaml
