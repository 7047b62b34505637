import CodeHighlight.Yaml.Cursor
import CodeHighlight.Yaml.Fault

/-!
# Quoted scalars

Between single marks every character stands for itself, and a mark is written twice. Between double
marks a backslash begins an escape. In both a line break becomes a space and each empty line behind
it a line feed; the blanks around a line break count for nothing.
-/

namespace CodeHighlight.Yaml.Quoted

/-- Blanks and line breaks that were read and not yet written. -/
inductive Held where
  | blanks (text : List Char)
  /-- A line break, and how many further ones follow it. -/
  | breaks (count : Nat)
  /-- An escaped line break, and how many further ones follow it. -/
  | joined (count : Nat)

namespace Held

/-- Nothing is held back. -/
def nothing : Held := blanks []

/-- What is written for the blanks and line breaks. -/
def text : Held → List Char
  | blanks text => text
  | breaks 0 => [' ']
  | breaks count => List.replicate count '\n'
  | joined count => List.replicate count '\n'

/-- A further blank. -/
def blank (c : Char) : Held → Held
  | blanks text => blanks (text ++ [c])
  | held => held

/-- A further line break. -/
def lineBreak : Held → Held
  | blanks _ => breaks 0
  | breaks count => breaks (count + 1)
  | joined count => joined (count + 1)

end Held

/-- A scalar and what follows its closing mark. -/
abbrev Reading := Except Fault (List Char × List Char)

/-- Puts characters before a scalar. -/
def before (front : List Char) (reading : Reading) : Reading :=
  reading.map fun (text, rest) => (front ++ text, rest)

/-- Reads up to the closing single mark. -/
def readSingle (held : Held) : List Char → Reading
  | [] => .error .malformed
  | '\'' :: '\'' :: rest => before (held.text ++ ['\'']) (readSingle .nothing rest)
  | '\'' :: rest => .ok (held.text, rest)
  | '\n' :: rest =>
    if atDocumentMark rest then .error .malformed else readSingle held.lineBreak rest
  | c :: rest =>
    if c = ' ' ∨ c = '\t' then readSingle (held.blank c) rest
    else before (held.text ++ [c]) (readSingle .nothing rest)

/-- The character that an escape of one letter stands for. -/
def letterEscape? : Char → Option Char
  | '0' => some '\x00'
  | 'a' => some '\x07'
  | 'b' => some '\x08'
  | 't' | '\t' => some '\t'
  | 'n' => some '\n'
  | 'v' => some '\x0B'
  | 'f' => some '\x0C'
  | 'r' => some '\r'
  | 'e' => some '\x1B'
  | ' ' => some ' '
  | '"' => some '"'
  | '\\' => some '\\'
  | '/' => some '/'
  | 'N' => some '\u0085'
  | '_' => some '\u00A0'
  | 'L' => some '\u2028'
  | 'P' => some '\u2029'
  | _ => none

/-- How many digits follow a letter that begins an escape by number. -/
def numberEscape? : Char → Option Nat
  | 'x' => some 2
  | 'u' => some 4
  | 'U' => some 8
  | _ => none

/-- The value of a hexadecimal digit. -/
def hexValue? (c : Char) : Option Nat :=
  if '0' ≤ c ∧ c ≤ '9' then some (c.toNat - 48)
  else if 'a' ≤ c ∧ c ≤ 'f' then some (c.toNat - 87)
  else if 'A' ≤ c ∧ c ≤ 'F' then some (c.toNat - 55)
  else none

/-- The character with a number. -/
def character (code : Nat) : Except Fault Char :=
  if 0x80000000 ≤ code then .error .hugeCharacter
  else if 0x110000 ≤ code then .error .noCharacter
  else .ok (Char.ofNat code)

/-- What a reader expects next between double marks. -/
inductive Expecting where
  | content (held : Held)
  /-- Behind a backslash. -/
  | escape
  /-- Further digits of an escape by number. -/
  | digits (count value : Nat)

/-- Reads up to the closing double mark. -/
def readDouble : Expecting → List Char → Reading
  | _, [] => .error .malformed
  | .content held, c :: rest =>
    if c = '"' then .ok (held.text, rest)
    else if c = '\\' then before held.text (readDouble .escape rest)
    else if c = '\n' then
      if atDocumentMark rest then .error .malformed else readDouble (.content held.lineBreak) rest
    else if c = ' ' ∨ c = '\t' then readDouble (.content (held.blank c)) rest
    else before (held.text ++ [c]) (readDouble (.content .nothing) rest)
  | .escape, c :: rest =>
    if c = '\n' then
      if atDocumentMark rest then .error .malformed else readDouble (.content (.joined 0)) rest
    else match letterEscape? c, numberEscape? c with
      | some image, _ => before [image] (readDouble (.content .nothing) rest)
      | none, some count => readDouble (.digits count 0) rest
      | none, none => .error .malformed
  | .digits count value, c :: rest =>
    match hexValue? c with
    | none => .error .malformed
    | some digit =>
      let value := 16 * value + digit
      if count ≤ 1 then
        match character value with
        | .ok image => before [image] (readDouble (.content .nothing) rest)
        | .error fault => .error fault
      else readDouble (.digits (count - 1) value) rest

end CodeHighlight.Yaml.Quoted
