import CodeHighlight.Text.Utf8

/-!
# Percent escapes

A character that an address cannot hold is written as the bytes of its UTF-8 form, each as a percent
sign and two hexadecimal digits. Escapes that are there already are kept. Reading takes runs of
escapes back to characters, but keeps those that would change what the address means.
-/

namespace CodeHighlight.Url

/-- A byte as a percent escape. -/
def percentByte (n : Nat) : List Char :=
  '%' :: (([n / 16, n % 16]).map fun d => (Nat.digitChar d).toUpper)

/-- A hexadecimal digit. -/
def isHexDigit (c : Char) : Bool :=
  c.isDigit || ('a' ≤ c && c ≤ 'f') || ('A' ≤ c && c ≤ 'F')

/-- Characters that stand for themselves in an address, letters and digits apart. -/
def reserved : List Char := ";/?:@&=+$,-_.!~*'()#".toList

/-- One character in an address. -/
def percentChar (c : Char) : List Char :=
  if c.isAlphanum || reserved.contains c then [c]
  else (String.singleton c).toUTF8.toList.flatMap fun b => percentByte b.toNat

/-- A text in an address; escapes in it are kept. -/
def percentEncode : List Char → List Char
  | '%' :: a :: b :: rest =>
    if isHexDigit a && isHexDigit b then '%' :: a :: b :: percentEncode rest
    else percentChar '%' ++ percentEncode (a :: b :: rest)
  | c :: rest => percentChar c ++ percentEncode rest
  | [] => []

/-- Escapes of these characters are kept. -/
def keptEscapes : List Char := ";/?:@&=+$,#%".toList

/-- The value of a hexadecimal digit. -/
def hexDigitValue (c : Char) : Nat :=
  if c.isDigit then c.toNat - 48 else if c.isLower then c.toNat - 87 else c.toNat - 55

/-- The bytes of the run of escapes at the front. -/
def escapeRun : List Char → List Nat
  | '%' :: a :: b :: rest =>
    if isHexDigit a && isHexDigit b then
      (16 * hexDigitValue a + hexDigitValue b) :: escapeRun rest
    else []
  | _ => []

/-- A byte that continues a character. -/
def continues (n : Nat) : Bool := n / 64 = 2

/-- How many bytes follow a byte that opens a longer character. -/
def following (n : Nat) : Nat :=
  if n / 32 = 6 then 1 else if n / 16 = 14 then 2 else if n / 8 = 30 then 3 else 0

/-- The character that bytes write, or one replacement character for each of them. -/
def charOf (bytes : List Nat) : List Char :=
  match Text.Utf8.decode (bytes.map UInt8.ofNat) with
  | .ok text => text
  | .error _ => bytes.map fun _ => '\uFFFD'

/-- The characters that the bytes of a run write. -/
def charsOf : List Nat → List Char
  | [] => []
  | byte :: rest =>
    let count := following byte
    if byte < 0x80 then
      (if keptEscapes.contains (Char.ofNat byte) then percentByte byte else [Char.ofNat byte]) ++
        charsOf rest
    else if 0 < count ∧ count ≤ rest.length ∧ (rest.take count).all continues then
      charOf (byte :: rest.take count) ++ charsOf (rest.drop count)
    else '\uFFFD' :: charsOf rest
termination_by bytes => bytes.length
decreasing_by all_goals simp only [List.length_cons, List.length_drop]; omega

/-- Takes escapes back to characters. -/
def percentDecode : List Char → List Char
  | [] => []
  | c :: rest =>
    match escapeRun (c :: rest) with
    | [] => c :: percentDecode rest
    | byte :: bytes => charsOf (byte :: bytes) ++ percentDecode (rest.drop (3 * bytes.length + 2))
termination_by text => text.length
decreasing_by all_goals simp only [List.length_cons, List.length_drop]; omega

end CodeHighlight.Url
