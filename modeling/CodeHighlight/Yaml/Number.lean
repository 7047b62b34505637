import CodeHighlight.Decimal.Nearest
import CodeHighlight.Text.Case
import CodeHighlight.Yaml.Fault

/-!
# Numbers of a data text

Underscores in a number count for nothing. A whole number may be written in base two, eight or
sixteen; colons in a number separate places that count in sixties.
-/

namespace CodeHighlight.Yaml.Number

/-- Splits off a sign; at least one character has to be there. -/
def splitSign : List Char → Except Fault (Bool × List Char)
  | [] => .error .emptyNumber
  | '-' :: rest => .ok (true, rest)
  | '+' :: rest => .ok (false, rest)
  | text => .ok (false, text)

/-- The value of a digit in a base up to sixteen. -/
def digit? (base : Nat) (c : Char) : Option Nat :=
  let value := (Text.digitValue? c).or
    (if 'a' ≤ c ∧ c ≤ 'f' then some (c.toNat - 87)
      else if 'A' ≤ c ∧ c ≤ 'F' then some (c.toNat - 55)
      else none)
  value.filter (· < base)

/-- The letter that may stand behind a zero before a number in a base. -/
def baseLetter? : Nat → Option Char
  | 2 => some 'b'
  | 8 => some 'o'
  | 16 => some 'x'
  | _ => none

/-- Drops a zero and the letter of a base. -/
def dropBase (base : Nat) : List Char → List Char
  | '0' :: c :: rest =>
    if (baseLetter? base).any fun letter => c.toLower = letter then rest else '0' :: c :: rest
  | text => text

/-- Reads a whole number in base two, eight or sixteen. -/
def readBased (base : Nat) (text : List Char) : Except Fault Int :=
  let malformed : Except Fault Int := .error (.numeral (.malformed (String.ofList text) base))
  let (negative, body) := Text.splitSign (Text.trim text)
  let digits := dropBase base body
  if digits.isEmpty then malformed
  else
    match digits.mapM (digit? base) with
    | none => malformed
    | some values =>
      let size : Int := (values.foldl (fun n v => base * n + v) 0 : Nat)
      .ok (if negative then -size else size)

/-- Reads a whole number in base ten. -/
def readTen (text : List Char) : Except Fault Int :=
  (Text.readInteger (String.ofList text)).mapError .numeral

/-- The value of places that count in sixties, the greatest first. -/
def sixties (places : List Int) : Int := places.foldl (fun n v => 60 * n + v) 0

/-- Reads a number without its sign. -/
def readSize (text : List Char) : Except Fault Int :=
  match text with
  | ['0'] => .ok 0
  | '0' :: 'b' :: rest => readBased 2 rest
  | '0' :: 'x' :: rest => readBased 16 rest
  | '0' :: _ => readBased 8 text
  | [] => .error .emptyNumber
  | _ =>
    if text.contains ':' then ((Text.splitAt ':' text).mapM readTen).map sixties
    else readTen text

/-- Reads a whole number. -/
def readInt (text : List Char) : Except Fault Int := do
  let (negative, text) ← splitSign (text.filter (· ≠ '_'))
  let size ← readSize text
  return if negative then -size else size

/-- The digits at the front, of any script, as their values. -/
def takeDigits (text : List Char) : List Nat × List Char :=
  let digits := text.takeWhile Text.isDigit
  (digits.filterMap Text.digitValue?, text.drop digits.length)

/-- The power of ten behind a letter, up to the end. -/
def exponent? : List Char → Option Int
  | [] => some 0
  | 'e' :: rest =>
    let (negative, rest) := Text.splitSign rest
    let (digits, rest) := takeDigits rest
    if digits.isEmpty || !rest.isEmpty then none
    else
      let size : Int := (digits.foldl (fun n d => 10 * n + d) 0 : Nat)
      some (if negative then -size else size)
  | _ => none

/-- The size of a floating-point number in small letters, without its sign. -/
def floatSize? (text : List Char) : Option Float :=
  if text = "inf".toList ∨ text = "infinity".toList then some (1.0 / 0.0)
  else if text = "nan".toList then some (0.0 / 0.0)
  else
    let (whole, rest) := takeDigits text
    let (fraction, rest) := match rest with
      | '.' :: rest => takeDigits rest
      | rest => ([], rest)
    let digits := whole ++ fraction
    if digits.isEmpty then none
    else (exponent? rest).map fun exponent =>
      Decimal.nearest (digits.foldl (fun n d => 10 * n + d) 0) (exponent - fraction.length)

/-- Reads one part of a floating-point number. -/
def readPart (text : List Char) : Except Fault Float :=
  let (negative, body) := Text.splitSign (Text.trim text)
  match floatSize? body with
  | none => .error (.notFloat (String.ofList text))
  | some size => .ok (if negative then -size else size)

/-- The value of parts that count in sixties, the least first. What a place counts has to be within
the range of floating-point numbers; no power of sixty is so near its end that rounding decides. -/
def sumSixties (base : Nat) (sum : Float) : List Float → Except Fault Float
  | [] => .ok sum
  | part :: rest =>
    if 2 ^ 1024 ≤ base then .error .hugePlace
    else sumSixties (base * 60) (sum + part * Decimal.nearest base 0) rest

/-- Reads a floating-point number. -/
def readFloat (text : List Char) : Except Fault Float := do
  let (negative, text) ← splitSign (Text.lower (text.filter (· ≠ '_')))
  let size ←
    if text = ".inf".toList then pure (1.0 / 0.0)
    else if text = ".nan".toList then return 0.0 / 0.0
    else if text.contains ':' then
      let parts ← (Text.splitAt ':' text).mapM readPart
      sumSixties 1 0.0 parts.reverse
    else readPart text
  return if negative then -size else size

end CodeHighlight.Yaml.Number
