import CodeHighlight.Text.Digit
import CodeHighlight.Text.Utf8
import CodeHighlight.Yaml.Cursor
import CodeHighlight.Yaml.Scalar.Quoted
import CodeHighlight.Yaml.Token

/-!
# Anchors, tags and directives

The tokens that say something about a node or a document. Each reader begins at the mark of its
token and gives the token with what follows it.
-/

namespace CodeHighlight.Yaml.Property

/-- A token and what follows it. -/
abbrev Reading := Except Fault (Token × List Char)

/-- A character of a name. -/
def isNameChar (c : Char) : Bool := c.isAlphanum || c = '-' || c = '_'

/-- A character of a tag. -/
def isTagChar (c : Char) : Bool := c.isAlphanum || "-;/?:@&=+$,_.!~*'()[]%".toList.contains c

/-- The name at the front; there has to be one. -/
def name? (text : List Char) : Option (String × List Char) :=
  let name := text.takeWhile isNameChar
  if name.isEmpty then none else some (String.ofList name, text.drop name.length)

/-- Reads the name behind the mark of an anchor or an alias. -/
def readName (make : String → Token) (text : List Char) : Reading :=
  match name? (text.drop 1) with
  | none => .error .malformed
  | some (name, rest) =>
    if atGap rest || rest.head?.any ("?:,]\x7d%@".toList ++ [Char.ofNat 0x60]).contains then
      .ok (make name, rest)
    else .error .malformed

/-- The bytes of the escapes at the front. -/
def escapedBytes : List Char → Option (List UInt8 × List Char)
  | '%' :: a :: b :: rest =>
    match Quoted.hexValue? a, Quoted.hexValue? b with
    | some high, some low =>
      (escapedBytes rest).map fun (bytes, rest) => (UInt8.ofNat (16 * high + low) :: bytes, rest)
    | _, _ => none
  | '%' :: _ => none
  | rest => some ([], rest)

/-- The text of a tag; escapes stand for the bytes of characters. -/
def tagText : Nat → List Char → Option (List Char × List Char)
  | 0, text => some ([], text)
  | fuel + 1, text =>
    match text with
    | [] => some ([], [])
    | c :: rest =>
      if c = '%' then do
        let (bytes, rest) ← escapedBytes text
        let escaped ← (Text.Utf8.decode bytes).toOption
        let (more, rest) ← tagText fuel rest
        return (escaped ++ more, rest)
      else if isTagChar c then
        (tagText fuel rest).map fun (more, rest) => (c :: more, rest)
      else some ([], text)

/-- The text of a tag; there has to be one. -/
def tagSuffix? (text : List Char) : Option (String × List Char) := do
  let (suffix, rest) ← tagText text.length text
  if rest.length = text.length then none
  return (String.ofList suffix, rest)

/-- The handle of a tag: a mark alone, or a name between two marks. -/
def handle? : List Char → Option (String × List Char)
  | '!' :: ' ' :: rest => some ("!", ' ' :: rest)
  | '!' :: text =>
    let name := text.takeWhile isNameChar
    match text.drop name.length with
    | '!' :: rest => some (String.ofList ('!' :: name ++ ['!']), rest)
    | _ => none
  | _ => none

/-- A tag and what follows it. -/
def tag? (text : List Char) : Option (Token × List Char) := do
  let (token, rest) ← match text.drop 1 with
    | '<' :: inner => do
      let (suffix, rest) ← tagSuffix? inner
      if rest.head? = some '>' then some (Token.tag none suffix, rest.drop 1) else none
    | inner =>
      if atGap inner then some (Token.tag none "!", inner)
      else if (inner.takeWhile fun c => c ≠ ' ' && c ≠ '\n').contains '!' then do
        let (handle, rest) ← handle? text
        let (suffix, rest) ← tagSuffix? rest
        some (Token.tag (some handle) suffix, rest)
      else do
        let (suffix, rest) ← tagSuffix? inner
        some (Token.tag (some "!") suffix, rest)
  if atSpace rest then some (token, rest) else none

/-- Reads a tag. -/
def readTag (text : List Char) : Reading := (tag? text).elim (.error .malformed) .ok

/-- The number at the front. -/
def number (text : List Char) : Except Fault (Nat × List Char) :=
  let digits := text.takeWhile Char.isDigit
  if digits.isEmpty then .error .malformed
  else match Text.readNumeral? digits with
    | some n => .ok (n, text.drop digits.length)
    | none => .error (.numeral (.tooLong digits.length))

/-- What a directive for the version says. -/
def version (text : List Char) : Reading := do
  let (major, rest) ← number (dropSpaces text)
  match rest with
  | '.' :: rest =>
    let (minor, rest) ← number rest
    if atSpace rest then return (.version major minor, rest) else .error .malformed
  | _ => .error .malformed

/-- What a directive for a handle says. -/
def handleStem? (text : List Char) : Option (Token × List Char) := do
  let (name, rest) ← handle? (dropSpaces text)
  if rest.head? ≠ some ' ' then none
  let (stem, rest) ← tagSuffix? (dropSpaces rest)
  if atSpace rest then some (.handle name stem, rest) else none

/-- Reads a directive with its line. -/
def readDirective (text : List Char) : Reading := do
  let some (name, rest) := name? (text.drop 1) | .error .malformed
  if !atSpace rest then .error .malformed
  let (token, rest) ←
    if name = "YAML" then version rest
    else if name = "TAG" then (handleStem? rest).elim (.error .malformed) .ok
    else .ok (.otherDirective, dropLine rest)
  let some rest := closeLine? rest | .error .malformed
  return (token, rest)

end CodeHighlight.Yaml.Property
