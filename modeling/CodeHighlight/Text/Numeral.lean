import CodeHighlight.Text.Blank
import CodeHighlight.Text.Digit
import CodeHighlight.Text.Quoted

/-!
# Whole numbers as text

A whole number is a run of decimal digits with an optional sign; single underscores may stand
between digits and blanks around the whole. Numbers of too many digits are neither read nor
written.
-/

namespace CodeHighlight.Text

/-- Why a number is not read or written. -/
inductive NumeralFault where
  /-- The text is no number in the given base. -/
  | malformed (text : String) (base : Nat)
  /-- The text has more digits than are read. -/
  | tooLong (digits : Nat)
  /-- The number has more digits than are written. -/
  | unwritable
deriving Repr, DecidableEq

/-- The wording of a fault. -/
def NumeralFault.message : NumeralFault → String
  | .malformed text base =>
    "invalid literal for int() with base " ++ toString base ++ ": "
      ++ String.ofList ((quoted text.toList).take 200)
  | .tooLong digits =>
    "Exceeds the limit (4300 digits) for integer string conversion: value has " ++ toString digits
      ++ " digits; use sys.set_int_max_str_digits() to increase the limit"
  | .unwritable =>
    "Exceeds the limit (4300 digits) for integer string conversion; "
      ++ "use sys.set_int_max_str_digits() to increase the limit"

/-- The digits of a number with single underscores between them; none if the text is not of that
form. -/
def ungroupDigits? : List Char → Option (List Char)
  | [] => none
  | [c] => if isDigit c then some [c] else none
  | c :: '_' :: rest => if isDigit c then (ungroupDigits? rest).map (c :: ·) else none
  | c :: d :: rest => if isDigit c then (ungroupDigits? (d :: rest)).map (c :: ·) else none

/-- Splits off a sign; `true` means negative. -/
def splitSign : List Char → Bool × List Char
  | '-' :: rest => (true, rest)
  | '+' :: rest => (false, rest)
  | rest => (false, rest)

/-- Reads a whole number. -/
def readInteger (text : String) : Except NumeralFault Int :=
  let (negative, body) := splitSign (trim text.toList)
  match ungroupDigits? body with
  | none => .error (.malformed text 10)
  | some digits =>
    match readNumeral? digits with
    | none => .error (.tooLong digits.length)
    | some n => .ok (if negative then -(n : Int) else n)

/-- Writes a whole number. -/
def writeInteger (n : Int) : Except NumeralFault String :=
  if n.natAbs < Nat.pow 10 numeralLimit then .ok (toString n) else .error .unwritable

end CodeHighlight.Text
