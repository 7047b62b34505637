import CodeHighlight.Text.Blank
import CodeHighlight.Text.Case
import CodeHighlight.Url

/-!
# Host names beyond ASCII

A label of a host with characters beyond ASCII is written in letters, digits and hyphens: first its
ASCII characters, then, behind a hyphen, where each other character is inserted and which one it is.
These numbers are written in a variable-length base 36 whose digit thresholds adapt.
-/

namespace CodeHighlight.Url.Punycode

/-- The next bias after a delta was written or read. -/
def adapt (delta count : Nat) (first : Bool) : Nat :=
  -- The first delta spans the whole label and all codes below, so it is damped much more.
  let delta := if first then delta / 700 else delta / 2
  go 32 (delta + delta / count) 0
where
  /-- Divides until the rest is small. -/
  go : Nat → Nat → Nat → Nat
    | 0, delta, bias => bias + 36 * delta / (delta + 38)
    | steps + 1, delta, bias =>
      if 455 < delta then go steps (delta / 35) (bias + 36) else bias + 36 * delta / (delta + 38)

/-- The threshold of the digit at a place. -/
def threshold (bias place : Nat) : Nat := min 26 (max 1 (36 * (place + 1) - bias))

/-- A digit of base 36: a letter, then a decimal digit. -/
def digitChar (n : Nat) : Char := Char.ofNat (if n < 26 then 97 + n else 22 + n)

/-- The value of a digit of base 36. -/
def digitValue? (c : Char) : Option Nat :=
  if c.isUpper then some (c.toNat - 65)
  else if c.isLower then some (c.toNat - 97)
  else if c.isDigit then some (c.toNat - 22)
  else none

/-- Writes a number; `steps` bounds its digits. -/
def writeNumber (bias : Nat) : Nat → Nat → Nat → List Char
  | 0, _, n => [digitChar (n % 36)]
  | steps + 1, place, n =>
    let t := threshold bias place
    if n < t then [digitChar n]
    else digitChar (t + (n - t) % (36 - t)) ::
      writeNumber bias steps (place + 1) ((n - t) / (36 - t))

/-- The state of writing: characters handled, the delta since the last number, and the bias. -/
structure Writer where
  count : Nat
  delta : Nat
  bias : Nat
  first : Bool

/-- Walks along the label and writes where the character `n` is inserted. -/
def writePass (n : Nat) : List Nat → Writer → List Char × Writer
  | [], w => ([], w)
  | c :: rest, w =>
    if c < n then writePass n rest { w with delta := w.delta + 1 }
    else if c = n then
      let digits := writeNumber w.bias (w.delta + 1) 0 w.delta
      let w := ⟨w.count + 1, 0, adapt w.delta (w.count + 1) w.first, false⟩
      let (more, w) := writePass n rest w
      (digits ++ more, w)
    else writePass n rest w

/-- Writes the characters beyond ASCII, the smallest first; `last` was written last. -/
def writeFrom (label : List Nat) (last : Nat) : List Nat → Writer → List Char
  | [], _ => []
  | n :: rest, w =>
    let (digits, w) :=
      writePass n label { w with delta := w.delta + (n - last - 1) * (w.count + 1) }
    digits ++ writeFrom label n rest { w with delta := w.delta + 1 }

/-- The distinct values of an ascending list. -/
def distinctSorted : List Nat → List Nat
  | a :: b :: rest => if a = b then distinctSorted (b :: rest) else a :: distinctSorted (b :: rest)
  | short => short

/-- A label in ASCII, without the mark that tells it from others. -/
def encode (label : List Char) : List Char :=
  let plain := label.filter fun c => c.toNat < 0x80
  let codes := label.map Char.toNat
  let others := distinctSorted ((codes.filter (0x80 ≤ ·)).mergeSort (· ≤ ·))
  let digits := writeFrom codes 0x7F others ⟨plain.length, 0, 72, true⟩
  if plain.isEmpty then digits else plain ++ '-' :: digits

/-- Reads a number and returns what follows it. -/
def readNumber? (bias : Nat) : Nat → Nat → List Char → Option (Nat × List Char)
  | _, _, [] => none
  | place, weight, c :: rest => do
    let digit ← digitValue? c
    let t := threshold bias place
    if digit < t then return (digit * weight, rest)
    let (n, rest) ← readNumber? bias (place + 1) (weight * (36 - t)) rest
    return (digit * weight + n, rest)

/-- Inserts the characters that the numbers in `text` name; `steps` bounds how many there are. -/
def readFrom? (code place bias : Nat) (first : Bool) (label : List Char) :
    Nat → List Char → Option (List Char)
  | _, [] => some label
  | 0, _ => none
  | steps + 1, text => do
    let (delta, rest) ← readNumber? bias 0 1 text
    let size := label.length + 1
    let code := code + (place + delta) / size
    let place := (place + delta) % size
    if !code.isValidChar then none
    let label := label.take place ++ Char.ofNat code :: label.drop place
    readFrom? code (place + 1) (adapt delta size first) false label steps rest

/-- The label that ASCII characters write. -/
def decode? (text : List Char) : Option (List Char) :=
  if text.any fun c => 0x80 ≤ c.toNat then none
  else
    let digits := (text.reverse.takeWhile (· ≠ '-')).reverse
    let plain := text.take (text.length - digits.length - 1)
    readFrom? 0x80 0 72 true plain digits.length digits

/-- The mark of a label in ASCII that stands for another one. -/
def mark : List Char := "xn--".toList

/-- Full stops of all scripts. -/
def isStop (c : Char) : Bool := c = '.' || c = '\u3002' || c = '\uFF0E' || c = '\uFF61'

/-- The labels of a host. -/
def labels (host : List Char) : List (List Char) :=
  Text.splitAt '.' (host.map fun c => if isStop c then '.' else c)

/-- A host in ASCII. -/
def hostToAscii (host : List Char) : List Char :=
  Text.joinWith ['.'] ((labels host).map fun label =>
    if label.any fun c => 0x7E < c.toNat then mark ++ encode label else label)

/-- A host with its labels as they are read; if one cannot be read, the host is left as it is. -/
def hostToUnicode (host : List Char) : List Char :=
  let read (label : List Char) : Option (List Char) :=
    if mark.isPrefixOf label then decode? (Text.lower (label.drop 4)) else some label
  match (labels host).mapM read with
  | some labels => Text.joinWith ['.'] labels
  | none => host

end CodeHighlight.Url.Punycode
