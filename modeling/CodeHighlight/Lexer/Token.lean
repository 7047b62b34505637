/-!
# Tokens

A token is a piece of source text with a kind. Kinds form a tree: a kind is the path of names that
leads to it. A short key stands for each standard kind, and a kind without a key of its own takes
that of its nearest ancestor. Plain text has no key.
-/

namespace CodeHighlight

/-- The path of names to a kind of tokens; the empty path is the root of all kinds. -/
abbrev TokenKind := List String

/-- A piece of source text with its kind. -/
structure Token where
  kind : TokenKind
  text : List Char
deriving Repr, DecidableEq

namespace TokenKind

/-- Text that is nothing in particular. -/
def text : TokenKind := ["Text"]

/-- Blanks and line breaks. -/
def whitespace : TokenKind := ["Text", "Whitespace"]

/-- Characters that fit nowhere. -/
def error : TokenKind := ["Error"]

/-- Words of the language. -/
def keyword : TokenKind := ["Keyword"]

/-- Names. -/
def name : TokenKind := ["Name"]

/-- Literals of text. -/
def string : TokenKind := ["Literal", "String"]

/-- Literals of numbers. -/
def number : TokenKind := ["Literal", "Number"]

/-- Operators. -/
def operator : TokenKind := ["Operator"]

/-- Marks that separate and enclose. -/
def punctuation : TokenKind := ["Punctuation"]

/-- Comments. -/
def comment : TokenKind := ["Comment"]

/-- Parts of a text that is no program. -/
def generic : TokenKind := ["Generic"]

/-- A kind below another one. -/
def sub (kind : TokenKind) (name : String) : TokenKind := kind ++ [name]

/-- The short keys of the standard kinds. -/
def keys : List (TokenKind × String) := [
  (["Text", "Whitespace"], "w"), (["Escape"], "esc"), (["Error"], "err"), (["Other"], "x"),
  (["Keyword"], "k"), (["Keyword", "Constant"], "kc"), (["Keyword", "Declaration"], "kd"),
  (["Keyword", "Namespace"], "kn"), (["Keyword", "Pseudo"], "kp"),
  (["Keyword", "Reserved"], "kr"), (["Keyword", "Type"], "kt"), (["Name"], "n"),
  (["Name", "Attribute"], "na"), (["Name", "Builtin"], "nb"),
  (["Name", "Builtin", "Pseudo"], "bp"), (["Name", "Class"], "nc"), (["Name", "Constant"], "no"),
  (["Name", "Decorator"], "nd"), (["Name", "Entity"], "ni"), (["Name", "Exception"], "ne"),
  (["Name", "Function"], "nf"), (["Name", "Function", "Magic"], "fm"),
  (["Name", "Property"], "py"), (["Name", "Label"], "nl"), (["Name", "Namespace"], "nn"),
  (["Name", "Other"], "nx"), (["Name", "Tag"], "nt"), (["Name", "Variable"], "nv"),
  (["Name", "Variable", "Class"], "vc"), (["Name", "Variable", "Global"], "vg"),
  (["Name", "Variable", "Instance"], "vi"), (["Name", "Variable", "Magic"], "vm"),
  (["Literal"], "l"), (["Literal", "Date"], "ld"), (["Literal", "String"], "s"),
  (["Literal", "String", "Affix"], "sa"), (["Literal", "String", "Backtick"], "sb"),
  (["Literal", "String", "Char"], "sc"), (["Literal", "String", "Delimiter"], "dl"),
  (["Literal", "String", "Doc"], "sd"), (["Literal", "String", "Double"], "s2"),
  (["Literal", "String", "Escape"], "se"), (["Literal", "String", "Heredoc"], "sh"),
  (["Literal", "String", "Interpol"], "si"), (["Literal", "String", "Other"], "sx"),
  (["Literal", "String", "Regex"], "sr"), (["Literal", "String", "Single"], "s1"),
  (["Literal", "String", "Symbol"], "ss"), (["Literal", "Number"], "m"),
  (["Literal", "Number", "Bin"], "mb"), (["Literal", "Number", "Float"], "mf"),
  (["Literal", "Number", "Hex"], "mh"), (["Literal", "Number", "Integer"], "mi"),
  (["Literal", "Number", "Integer", "Long"], "il"), (["Literal", "Number", "Oct"], "mo"),
  (["Operator"], "o"), (["Operator", "Word"], "ow"), (["Punctuation"], "p"),
  (["Punctuation", "Marker"], "pm"), (["Comment"], "c"), (["Comment", "Hashbang"], "ch"),
  (["Comment", "Multiline"], "cm"), (["Comment", "Preproc"], "cp"),
  (["Comment", "PreprocFile"], "cpf"), (["Comment", "Single"], "c1"),
  (["Comment", "Special"], "cs"), (["Generic"], "g"), (["Generic", "Deleted"], "gd"),
  (["Generic", "Emph"], "ge"), (["Generic", "Error"], "gr"), (["Generic", "Heading"], "gh"),
  (["Generic", "Inserted"], "gi"), (["Generic", "Output"], "go"), (["Generic", "Prompt"], "gp"),
  (["Generic", "Strong"], "gs"), (["Generic", "Subheading"], "gu"),
  (["Generic", "EmphStrong"], "ges"), (["Generic", "Traceback"], "gt")]

/-- The key of a kind itself. -/
def ownKey? (kind : TokenKind) : Option String := keys.lookup kind

/-- The key of the nearest kind at or above; `steps` bounds the way up. -/
def keyWithin? : Nat → TokenKind → Option String
  | 0, kind => ownKey? kind
  | steps + 1, kind => (ownKey? kind).or (keyWithin? steps kind.dropLast)

/-- The key of a kind: its own, or that of its nearest ancestor with one. -/
def key? (kind : TokenKind) : Option String := keyWithin? kind.length kind

end TokenKind

end CodeHighlight
