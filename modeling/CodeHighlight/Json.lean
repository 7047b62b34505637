import CodeHighlight.Text.Quoted
import CodeHighlight.Decimal.Shortest

/-!
# JSON values

A value of the data format that scripts embed and events carry. Members of an object keep their
order. `Json.compact` writes a value in ASCII with no blanks; `Json.literal` writes it the way log
messages show data.
-/

namespace CodeHighlight

/-- A JSON value. Whole numbers are kept apart from numbers with a fraction or exponent. -/
inductive Json where
  | null
  | bool (value : Bool)
  | int (value : Int)
  | real (value : Float)
  | str (value : String)
  | arr (items : List Json)
  | obj (members : List (String × Json))
deriving Repr, Inhabited

namespace Json

/-- Four small hexadecimal digits behind the escape for a sixteen-bit unit. -/
def unitEscape (n : Nat) : List Char := '\\' :: 'u' :: Text.hexDigits 4 n

/-- One character inside a JSON string of ASCII characters only. -/
def stringChar (c : Char) : List Char :=
  if c = '"' ∨ c = '\\' then ['\\', c]
  else if c = '\n' then ['\\', 'n']
  else if c = '\r' then ['\\', 'r']
  else if c = '\t' then ['\\', 't']
  else if c = '\x0C' then ['\\', 'f']
  else if c = '\x08' then ['\\', 'b']
  else if 0x20 ≤ c.toNat ∧ c.toNat < 0x7F then [c]
  else if c.toNat < 0x10000 then unitEscape c.toNat
  else
    let n := c.toNat - 0x10000
    unitEscape (0xD800 + n / 0x400) ++ unitEscape (0xDC00 + n % 0x400)

/-- A text as a JSON string of ASCII characters only. -/
def string (text : String) : List Char :=
  '"' :: (text.toList.flatMap stringChar ++ ['"'])

/-- Puts commas between the parts. -/
def commas : List (List Char) → List Char
  | [] => []
  | [part] => part
  | part :: rest => part ++ ',' :: commas rest

mutual

/-- A value without blanks. -/
def compact : Json → List Char
  | null => "null".toList
  | bool true => "true".toList
  | bool false => "false".toList
  | int n => (toString n).toList
  | real x => (Decimal.render x).toList
  | str s => string s
  | arr items => '[' :: (commas (compactItems items) ++ [']'])
  | obj members => '{' :: (commas (compactMembers members) ++ ['}'])

/-- The items of an array without blanks. -/
def compactItems : List Json → List (List Char)
  | [] => []
  | item :: rest => compact item :: compactItems rest

/-- The members of an object without blanks. -/
def compactMembers : List (String × Json) → List (List Char)
  | [] => []
  | (key, item) :: rest => (string key ++ ':' :: compact item) :: compactMembers rest

end

/-- Puts a comma and a blank between the parts. -/
def spacedCommas : List (List Char) → List Char
  | [] => []
  | [part] => part
  | part :: rest => part ++ ',' :: ' ' :: spacedCommas rest

mutual

/-- A value as log messages show it: quoted literals, capital names for the constants. -/
def literal : Json → List Char
  | null => "None".toList
  | bool true => "True".toList
  | bool false => "False".toList
  | int n => (toString n).toList
  | real x => (Decimal.render x).toList
  | str s => Text.quoted s.toList
  | arr items => '[' :: (spacedCommas (literalItems items) ++ [']'])
  | obj members => '{' :: (spacedCommas (literalMembers members) ++ ['}'])

/-- The items of an array as log messages show them. -/
def literalItems : List Json → List (List Char)
  | [] => []
  | item :: rest => literal item :: literalItems rest

/-- The members of an object as log messages show them. -/
def literalMembers : List (String × Json) → List (List Char)
  | [] => []
  | (key, item) :: rest =>
    (Text.quoted key.toList ++ ':' :: ' ' :: literal item) :: literalMembers rest

end

/-- A value inside a sentence: a string stands for itself, anything else as in a log message. -/
def inline : Json → String
  | str s => s
  | other => String.ofList (literal other)

/-- Null, false, zero and everything empty count as nothing. -/
def isNothing : Json → Bool
  | null => true
  | bool b => !b
  | int n => n == 0
  | real x => x == 0.0
  | str s => s.isEmpty
  | arr items => items.isEmpty
  | obj members => members.isEmpty

/-- The member of an object under a name; of repeated names the last counts. -/
def member? (name : String) : Json → Option Json
  | obj members => members.reverse.lookup name
  | _ => none

/-- The member under a name, where a missing one counts as null. -/
def member (name : String) (value : Json) : Json := (value.member? name).getD null

end Json

end CodeHighlight
