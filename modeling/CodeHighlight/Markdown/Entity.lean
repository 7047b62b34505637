import CodeHighlight.Markdown.Entity.Names
import CodeHighlight.Text.Punctuation

/-!
# Character references and backslashes

In running text, in addresses and in titles a character may be written as a reference, by name or by
code point, and a punctuation mark may stand behind a backslash.
-/

namespace CodeHighlight.Markdown

namespace Entity

/-- The characters that a name stands for. -/
def named? (name : List Char) : Option (List Char) := do
  let first ← name.head?
  let codes ← (namesFrom first).lookup (String.ofList name)
  return codes.map Char.ofNat

/-- Code points that a reference may name: no control, no surrogate, none that is reserved. -/
def isReferable (n : Nat) : Bool :=
  !(0xD800 ≤ n && n ≤ 0xDFFF) && !(0xFDD0 ≤ n && n ≤ 0xFDEF) && n % 0x10000 < 0xFFFE &&
    !(n ≤ 8) && n ≠ 0xB && !(0xE ≤ n && n ≤ 0x1F) && !(0x7F ≤ n && n ≤ 0x9F) && n ≤ 0x10FFFF

/-- The value of a hexadecimal digit. -/
def hexValue? (c : Char) : Option Nat :=
  if c.isDigit then some (c.toNat - 48)
  else if 'a' ≤ c ∧ c ≤ 'f' then some (c.toNat - 87)
  else if 'A' ≤ c ∧ c ≤ 'F' then some (c.toNat - 55)
  else none

/-- A hexadecimal digit. -/
def isHexDigit (c : Char) : Bool := (hexValue? c).isSome

/-- The number that digits write in a base. -/
def numberIn (base : Nat) (digits : List Char) : Nat :=
  digits.foldl (fun n c => base * n + (hexValue? c).getD 0) 0

/-- The code point behind the number sign of a reference, and the digits that name it. -/
def number? : List Char → Option (Nat × Nat)
  | [] => none
  | c :: rest =>
    if c = 'x' ∨ c = 'X' then
      if !rest.isEmpty && rest.all isHexDigit then some (numberIn 16 rest, rest.length) else none
    else if (c :: rest).all Char.isDigit then some (numberIn 10 (c :: rest), rest.length + 1)
    else none

/-- The text between an ampersand and the semicolon that closes a reference. -/
def body? (text : List Char) : Option (List Char) :=
  let body := text.takeWhile fun c => c.isAlphanum || c = '#'
  match text.drop body.length with
  | ';' :: _ => if body.isEmpty then none else some body
  | _ => none

/-- The character of a code point; a code point that may not be named is replaced. -/
def ofCode (n : Nat) : Char := if isReferable n then Char.ofNat n else '\uFFFD'

/-- The reference behind an ampersand in running text: its characters and its length, semicolon
included. A number has at most seven decimal or six hexadecimal digits. -/
def inText? (text : List Char) : Option (List Char × Nat) := do
  let body ← body? text
  match body with
  | '#' :: number =>
    let (n, digits) ← number? number
    if digits ≤ (if number.length = digits then 7 else 6) then
      return ([ofCode n], body.length + 1)
    else none
  | name =>
    let characters ← named? name
    return (characters, body.length + 1)

/-- The reference behind an ampersand in an address or a title. A number has at most eight digits
and must be one that may be named. -/
def inTarget? (text : List Char) : Option (List Char × Nat) := do
  let body ← body? text
  match body with
  | '#' :: number =>
    let (n, digits) ← number? number
    if digits ≤ 8 ∧ isReferable n then return ([Char.ofNat n], body.length + 1) else none
  | name =>
    let characters ← named? name
    return (characters, body.length + 1)

end Entity

/-- Takes backslashes before punctuation marks and character references back to the characters that
they stand for. -/
def unescape : List Char → List Char
  | [] => []
  | c :: rest =>
    if c = '\\' then
      match rest with
      | [] => [c]
      | d :: more =>
        if Text.isAsciiPunctuation d then d :: unescape more else c :: unescape (d :: more)
    else if c = '&' then
      match Entity.inTarget? rest with
      | some (characters, length) => characters ++ unescape (rest.drop length)
      | none => c :: unescape rest
    else c :: unescape rest
termination_by text => text.length
decreasing_by all_goals simp only [List.length_cons, List.length_drop]; omega

end CodeHighlight.Markdown
