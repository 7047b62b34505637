import CodeHighlight.Text.Printable

/-!
# Quoted literals

A text in a message stands between single quotation marks, or between double ones when it holds a
single mark and no double one. Controls and other characters that do not print are written by their
code point.
-/

namespace CodeHighlight.Text

/-- At least `width` small hexadecimal digits. -/
def hexDigits (width n : Nat) : List Char :=
  let digits := Nat.toDigits 16 n
  List.replicate (width - digits.length) '0' ++ digits

/-- One character of a literal between marks `quote`. -/
def quotedChar (quote c : Char) : List Char :=
  if c = quote ∨ c = '\\' then ['\\', c]
  else if c = '\n' then ['\\', 'n']
  else if c = '\r' then ['\\', 'r']
  else if c = '\t' then ['\\', 't']
  else if isPrintable c then [c]
  else if c.toNat < 0x100 then '\\' :: 'x' :: hexDigits 2 c.toNat
  else if c.toNat < 0x10000 then '\\' :: 'u' :: hexDigits 4 c.toNat
  else '\\' :: 'U' :: hexDigits 8 c.toNat

/-- The mark that encloses a literal. -/
def quoteMark (text : List Char) : Char :=
  if text.contains '\'' && !text.contains '"' then '"' else '\''

/-- A text as a quoted literal. -/
def quoted (text : List Char) : List Char :=
  let quote := quoteMark text
  quote :: (text.flatMap (quotedChar quote) ++ [quote])

/-- A string as a quoted literal. -/
def quotedString (text : String) : String := String.ofList (quoted text.toList)

end CodeHighlight.Text
