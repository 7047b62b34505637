import CodeHighlight.Decimal.Nearest
import CodeHighlight.Json

/-!
# Reading JSON

`Json.parse?` reads one value with blanks around it. Each step of the reader takes at least one
character, so the length of the text bounds the work.
-/

namespace CodeHighlight.Json

/-- Drops the blanks that JSON allows between tokens. -/
def skipBlanks (text : List Char) : List Char :=
  text.dropWhile fun c => c = ' ' || c = '\n' || c = '\r' || c = '\t'

/-- The value of a hexadecimal digit. -/
def hexValue? (c : Char) : Option Nat :=
  if '0' ≤ c ∧ c ≤ '9' then some (c.toNat - 48)
  else if 'a' ≤ c ∧ c ≤ 'f' then some (c.toNat - 87)
  else if 'A' ≤ c ∧ c ≤ 'F' then some (c.toNat - 55)
  else none

/-- The four hexadecimal digits of an escaped sixteen-bit unit. -/
def unit? : List Char → Option (Nat × List Char)
  | a :: b :: c :: d :: rest => do
    let a ← hexValue? a
    let b ← hexValue? b
    let c ← hexValue? c
    let d ← hexValue? d
    return (((a * 16 + b) * 16 + c) * 16 + d, rest)
  | _ => none

/-- The second unit of a pair that stands for one character. -/
def lowUnit? : List Char → Option (Nat × List Char)
  | '\\' :: 'u' :: rest => do
    let (n, rest) ← unit? rest
    if 0xDC00 ≤ n ∧ n < 0xE000 then some (n, rest) else none
  | _ => none

/-- The character behind a backslash and a letter. -/
def shortEscape? (c : Char) : Option Char :=
  match c with
  | '"' => some '"'
  | '\\' => some '\\'
  | '/' => some '/'
  | 'b' => some '\x08'
  | 'f' => some '\x0C'
  | 'n' => some '\n'
  | 'r' => some '\r'
  | 't' => some '\t'
  | _ => none

/-- Reads a string behind its opening mark. -/
def stringBody? : Nat → List Char → Option (List Char × List Char)
  | 0, _ => none
  | fuel + 1, text =>
    match text with
    | [] => none
    | '"' :: rest => some ([], rest)
    | '\\' :: 'u' :: rest => do
      let (high, rest) ← unit? rest
      if 0xD800 ≤ high ∧ high < 0xDC00 then
        match lowUnit? rest with
        | some (low, rest) =>
          let (tail, rest) ← stringBody? fuel rest
          return (Char.ofNat (0x10000 + (high - 0xD800) * 0x400 + (low - 0xDC00)) :: tail, rest)
        | none =>
          let (tail, rest) ← stringBody? fuel rest
          return ('\uFFFD' :: tail, rest)
      else
        let (tail, rest) ← stringBody? fuel rest
        return (Char.ofNat high :: tail, rest)
    | '\\' :: c :: rest => do
      let c ← shortEscape? c
      let (tail, rest) ← stringBody? fuel rest
      return (c :: tail, rest)
    | c :: rest => do
      let (tail, rest) ← stringBody? fuel rest
      return (c :: tail, rest)

/-- The number that ASCII digits write. -/
def decimalValue (digits : List Char) : Nat :=
  digits.foldl (fun n c => 10 * n + (c.toNat - 48)) 0

/-- Reads a number. -/
def number? (text : List Char) : Option (Json × List Char) :=
  let (negative, text) := match text with
    | '-' :: rest => (true, rest)
    | rest => (false, rest)
  let whole := text.takeWhile Char.isDigit
  let rest := text.dropWhile Char.isDigit
  if whole.isEmpty then none else
  let (fraction, rest, pointed) := match rest with
    | '.' :: more => (more.takeWhile Char.isDigit, more.dropWhile Char.isDigit, true)
    | _ => ([], rest, false)
  let (exponent, rest, raised) : Int × List Char × Bool := match rest with
    | c :: more =>
      if c = 'e' ∨ c = 'E' then
        let (minus, more) := match more with
          | '-' :: more => (true, more)
          | '+' :: more => (false, more)
          | _ => (false, more)
        let value : Int := decimalValue (more.takeWhile Char.isDigit)
        (if minus then -value else value, more.dropWhile Char.isDigit, true)
      else (0, rest, false)
    | [] => (0, rest, false)
  if pointed ∨ raised then
    let place := exponent - fraction.length
    let size := Decimal.nearest (decimalValue (whole ++ fraction)) place
    some (.real (if negative then -size else size), rest)
  else
    let size : Int := decimalValue whole
    some (.int (if negative then -size else size), rest)

mutual

/-- Reads one value that starts at the front. -/
def value? : Nat → List Char → Option (Json × List Char)
  | 0, _ => none
  | fuel + 1, text =>
    match text with
    | 'n' :: 'u' :: 'l' :: 'l' :: rest => some (.null, rest)
    | 't' :: 'r' :: 'u' :: 'e' :: rest => some (.bool true, rest)
    | 'f' :: 'a' :: 'l' :: 's' :: 'e' :: rest => some (.bool false, rest)
    | '"' :: rest => (stringBody? (rest.length + 1) rest).map fun (s, rest) =>
        (.str (String.ofList s), rest)
    | '[' :: rest =>
      match skipBlanks rest with
      | ']' :: rest => some (.arr [], rest)
      | rest => (items? fuel rest).map fun (items, rest) => (.arr items, rest)
    | '{' :: rest =>
      match skipBlanks rest with
      | '}' :: rest => some (.obj [], rest)
      | rest => (members? fuel rest).map fun (members, rest) => (.obj members, rest)
    | rest => number? rest

/-- Reads the items of an array up to its end. -/
def items? : Nat → List Char → Option (List Json × List Char)
  | 0, _ => none
  | fuel + 1, text => do
    let (item, rest) ← value? fuel text
    match skipBlanks rest with
    | ',' :: rest =>
      let (items, rest) ← items? fuel (skipBlanks rest)
      return (item :: items, rest)
    | ']' :: rest => return ([item], rest)
    | _ => none

/-- Reads the members of an object up to its end. -/
def members? : Nat → List Char → Option (List (String × Json) × List Char)
  | 0, _ => none
  | fuel + 1, text =>
    match text with
    | '"' :: rest => do
      let (key, rest) ← stringBody? (rest.length + 1) rest
      match skipBlanks rest with
      | ':' :: rest =>
        let (item, rest) ← value? fuel (skipBlanks rest)
        match skipBlanks rest with
        | ',' :: rest =>
          let (members, rest) ← members? fuel (skipBlanks rest)
          return ((String.ofList key, item) :: members, rest)
        | '}' :: rest => return ([(String.ofList key, item)], rest)
        | _ => none
      | _ => none
    | _ => none

end

/-- Reads a text that holds one value and blanks around it. -/
def parse? (text : List Char) : Option Json :=
  match value? (text.length + 1) (skipBlanks text) with
  | some (value, rest) => if (skipBlanks rest).isEmpty then some value else none
  | none => none

end CodeHighlight.Json
