import CodeHighlight.Yaml.Fault

/-!
# Tokens of a data text

The marks and scalars of a text in their order. Indentation shows as tokens that open and close
block collections. A text that cannot be read to its end ends with a token that says why.
-/

namespace CodeHighlight.Yaml

/-- A token. -/
inductive Token where
  /-- The version that a document is written for. -/
  | version (major minor : Nat)
  /-- A handle for tags and the stem that it stands for. -/
  | handle (name stem : String)
  /-- A directive without meaning. -/
  | otherDirective
  | documentStart
  | documentEnd
  | blockSequence
  | blockMapping
  | blockEnd
  | flowSequence
  | flowSequenceEnd
  | flowMapping
  | flowMappingEnd
  | blockEntry
  | flowEntry
  | key
  | value
  | alias (name : String)
  | anchor (name : String)
  /-- A tag as it is written; without a handle the suffix is the whole tag. -/
  | tag (handle : Option String) (suffix : String)
  /-- A scalar; a plain one has no marks around it. -/
  | scalar (text : List Char) (plain : Bool)
  | done
  | broken (fault : Fault)
deriving Repr, DecidableEq

end CodeHighlight.Yaml
