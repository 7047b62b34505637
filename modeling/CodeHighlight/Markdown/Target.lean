import CodeHighlight.Markdown.Entity
import CodeHighlight.Text.Case
import CodeHighlight.Url.Percent
import CodeHighlight.Url.Punycode

/-!
# Targets of links

A link names its address, in angle brackets or up to the next blank, and may have a title in
quotation marks or parentheses. Addresses are written in ASCII; those that would run a program are
refused.
-/

namespace CodeHighlight.Markdown

namespace Target

/-- Protocols that name a host which people read. -/
def hostProtocols : List String := ["http:", "https:", "mailto:"]

/-- The host of the address is a name that people read. -/
def hasReadableHost (url : Url) : Bool :=
  url.hostname.any (!·.isEmpty) &&
    url.protocol.all fun p => hostProtocols.contains (String.ofList p)

/-- An address with its host changed, if people read it. -/
def mapHost (change : List Char → List Char) (url : Url) : Url :=
  if hasReadableHost url then { url with hostname := url.hostname.map change } else url

/-- An address in ASCII. -/
def normalize (address : List Char) : List Char :=
  Url.percentEncode (mapHost Url.Punycode.hostToAscii (Url.parse address)).render

/-- An address as people read it. -/
def readable (address : List Char) : List Char :=
  Url.percentDecode (mapHost Url.Punycode.hostToUnicode (Url.parse address)).render

/-- Protocols that could run a program or read a file. -/
def refusedProtocols : List String := ["vbscript:", "javascript:", "file:", "data:"]

/-- Images may stand in the address itself. -/
def embeddedImages : List String :=
  ["data:image/gif;", "data:image/png;", "data:image/jpeg;", "data:image/webp;"]

/-- An address that a link may have. -/
def isAllowed (address : List Char) : Bool :=
  let text := Text.lower (Text.trim address)
  let begins (s : String) : Bool := s.toList.isPrefixOf text
  !refusedProtocols.any begins || embeddedImages.any begins

/-- The characters up to the closing angle bracket, and what follows it. -/
def bracketed? : List Char → Option (List Char × List Char)
  | [] => none
  | '\n' :: _ => none
  | '<' :: _ => none
  | '>' :: rest => some ([], rest)
  | '\\' :: c :: rest => (bracketed? rest).map fun (inner, rest) => ('\\' :: c :: inner, rest)
  | c :: rest => (bracketed? rest).map fun (inner, rest) => (c :: inner, rest)

/-- A blank or a control character. -/
def endsAddress (c : Char) : Bool := c.toNat ≤ 0x20 || c.toNat = 0x7F

/-- The deepest nesting of parentheses in an address. -/
def depthLimit : Nat := 32

/-- The characters of an address without brackets, and what follows it; parentheses are balanced. -/
def bare? (depth : Nat) : List Char → Option (List Char × List Char)
  | [] => if depth = 0 then some ([], []) else none
  | '\\' :: c :: rest =>
    if c = ' ' then (if depth = 0 then some ([], '\\' :: c :: rest) else none)
    else (bare? depth rest).map fun (inner, rest) => ('\\' :: c :: inner, rest)
  | c :: rest =>
    if endsAddress c then (if depth = 0 then some ([], c :: rest) else none)
    else if c = '(' then
      if depthLimit < depth + 1 then none
      else (bare? (depth + 1) rest).map fun (inner, rest) => (c :: inner, rest)
    else if c = ')' then
      if depth = 0 then some ([], c :: rest)
      else (bare? (depth - 1) rest).map fun (inner, rest) => (c :: inner, rest)
    else (bare? depth rest).map fun (inner, rest) => (c :: inner, rest)

/-- The address at the front of a text, and what follows it. -/
def destination? (text : List Char) : Option (List Char × List Char) :=
  match text with
  | '<' :: rest => (bracketed? rest).map fun (inner, rest) => (unescape inner, rest)
  | _ =>
    match bare? 0 text with
    | none => none
    | some ([], _) => none
    | some (inner, rest) => some (unescape inner, rest)

/-- The mark that closes a title. -/
def titleEnd? (c : Char) : Option Char :=
  if c = '"' ∨ c = '\'' then some c else if c = '(' then some ')' else none

/-- What a search for the end of a title finds. -/
inductive TitleScan where
  /-- The end, and what follows it. -/
  | closed (content rest : List Char)
  /-- Nothing; the title may go on in the next line. -/
  | unfinished (content : List Char)
  /-- An opening parenthesis inside parentheses. -/
  | refused
deriving Repr, DecidableEq

/-- Puts characters before the content of a title. -/
def TitleScan.before (front : List Char) : TitleScan → TitleScan
  | closed content rest => closed (front ++ content) rest
  | unfinished content => unfinished (front ++ content)
  | refused => refused

/-- Searches for the end of a title. -/
def scanTitle (close : Char) : List Char → TitleScan
  | [] => .unfinished []
  | c :: rest =>
    if c = close then .closed [] rest
    else if c = '(' ∧ close = ')' then .refused
    else if c = '\\' then
      match rest with
      | [] => .unfinished [c]
      | d :: more => (scanTitle close more).before [c, d]
    else (scanTitle close rest).before [c]

/-- The title at the front of a text, and what follows it. -/
def title? (text : List Char) : Option (List Char × List Char) := do
  let c ← text.head?
  let close ← titleEnd? c
  match scanTitle close text.tail with
  | .closed content rest => return (unescape content, rest)
  | _ => none

end Target

/-- What a definition says about a label. -/
structure Reference where
  address : List Char
  title : Option (List Char)
deriving Repr, DecidableEq

/-- The definitions of a document by label. -/
abbrev References := List (List Char × Reference)

namespace Reference

/-- Joins the words of a text with single blanks. -/
def collapse : List Char → List Char
  | [] => []
  | c :: rest =>
    if Text.isBlank c then
      match rest with
      | [] => [' ']
      | d :: more => if Text.isBlank d then collapse (d :: more) else ' ' :: collapse (d :: more)
    else c :: collapse rest

/-- A label without regard to letter case and blanks. -/
def normalizeLabel (label : List Char) : List Char :=
  Text.upper (Text.lower (collapse (Text.trim label)))

end Reference

end CodeHighlight.Markdown
