import CodeHighlight.Text.Blank

/-!
# Addresses

An address is cut into protocol, host, path, query and fragment, each of which may be missing, and
is written again from its parts. Reading is lenient: every text is an address. A label of the host
that holds a character hosts cannot have ends the host, and the rest belongs to the path.
-/

namespace CodeHighlight

/-- The parts of an address. -/
structure Url where
  /-- The protocol with its colon. -/
  protocol : Option (List Char) := none
  /-- Two slashes stand before the host. -/
  slashes : Bool := false
  /-- What stands before the sign `@`. -/
  auth : Option (List Char) := none
  hostname : Option (List Char) := none
  port : Option (List Char) := none
  path : List Char := []
  /-- The query with its question mark. -/
  query : List Char := []
  /-- The fragment with its number sign. -/
  fragment : List Char := []
deriving Repr, DecidableEq

namespace Url

/-- Characters that end the part before the sign `@`. -/
def endsAuthority (c : Char) : Bool := c = '/' || c = '?' || c = '#'

/-- Characters that no host has. -/
def endsHost (c : Char) : Bool :=
  c ∈ ['%', '/', '?', ';', '#', '\'', '\x7b', '\x7d', '|', '\\', '^', Char.ofNat 0x60, '<', '>',
    '"', ' ', '\r', '\n', '\t']

/-- Characters of a protocol. -/
def isProtocolChar (c : Char) : Bool :=
  c.isAlphanum || c = '.' || c = '+' || c = '-' || c = 'ſ' || c = 'K' || c = 'İ' || c = 'ı'

/-- Splits off the protocol. -/
def splitProtocol (text : List Char) : Option (List Char) × List Char :=
  let name := text.takeWhile isProtocolChar
  match text.dropWhile isProtocolChar with
  | ':' :: rest => if name.isEmpty then (none, text) else (some (name ++ [':']), rest)
  | _ => (none, text)

/-- Protocols with two slashes before the host. -/
def slashedProtocols : List String := ["http:", "https:", "ftp:", "gopher:", "file:"]

/-- The protocol is followed by two slashes if it has a host. -/
def isSlashed (protocol : Option (List Char)) : Bool :=
  protocol.any fun p => slashedProtocols.contains (String.ofList p)

/-- The protocol whose addresses are programs and have no host. -/
def isHostless (protocol : Option (List Char)) : Bool := protocol == some "javascript:".toList

/-- Splits at the last sign `@` in the part that may hold one. -/
def splitAuth (text : List Char) : Option (List Char) × List Char :=
  let authority := text.takeWhile fun c => !endsAuthority c
  if authority.contains '@' then
    let host := (authority.reverse.takeWhile (· ≠ '@')).reverse
    let auth := authority.take (authority.length - host.length - 1)
    (some auth, text.drop (auth.length + 1))
  else (none, text)

/-- Splits a port, a colon with digits, off the end of a host. A colon alone is dropped. -/
def splitPort (host : List Char) : List Char × Option (List Char) :=
  let digits := (host.reverse.takeWhile Char.isDigit).reverse
  match host.reverse.dropWhile Char.isDigit with
  | ':' :: front => (front.reverse, if digits.isEmpty then none else some digits)
  | _ => (host, none)

/-- Characters of a label of a host. -/
def isLabelChar (c : Char) : Bool := c.isAlphanum || c = '+' || c = '_' || c = '-'

/-- A label of a host: at most 63 characters, those beyond ASCII included. -/
def isLabel (label : List Char) : Bool :=
  label.length ≤ 63 && label.all fun c => isLabelChar c || 127 < c.toNat

/-- The longest beginning of a text that is a label of ASCII characters. -/
def labelStart (label : List Char) : List Char := (label.takeWhile isLabelChar).take 63

/-- Keeps the labels of a host up to the first that is none; what follows goes back to the path. -/
def validLabels : List (List Char) → List (List Char) × List (List Char)
  | [] => ([], [])
  | label :: rest =>
    if isLabel label then
      let (kept, left) := validLabels rest
      (label :: kept, left)
    else
      let start := labelStart label
      ([start], label.drop start.length :: rest)

/-- The longest host. -/
def hostLimit : Nat := 255

/-- The host of a text without port, and what goes back to the path. -/
def checkHost (host : List Char) : List Char × List Char :=
  let literal := host.head? = some '[' && host.getLast? = some ']'
  let (kept, left) :=
    if literal then (host, [])
    else
      let (kept, left) := validLabels (Text.splitAt '.' host)
      (Text.joinWith ['.'] kept, Text.joinWith ['.'] left)
  let kept := if hostLimit < kept.length then [] else kept
  (if literal then (kept.drop 1).dropLast else kept, left)

/-- Reads the host at the front and what stands before it. -/
def readHost (url : Url) (text : List Char) : Url × List Char :=
  let (auth, rest) := splitAuth text
  let host := rest.takeWhile fun c => !endsHost c
  let host := if host.getLast? = some ':' then host.dropLast else host
  let after := rest.drop host.length
  let (name, port) := splitPort host
  let (name, left) := checkHost name
  ({ url with auth, port, hostname := some name }, left ++ after)

/-- Reads the path, the query and the fragment. -/
def readPath (url : Url) (text : List Char) : Url :=
  let front := text.takeWhile (· ≠ '#')
  { url with
    fragment := text.dropWhile (· ≠ '#')
    query := front.dropWhile (· ≠ '?')
    path := front.takeWhile (· ≠ '?') }

/-- Reads an address. Two slashes at the front, or behind the protocol, announce a host. -/
def parse (text : List Char) : Url :=
  let (protocol, rest) := splitProtocol (Text.trim text)
  -- A host also follows a protocol that is not known to need the slashes, as in a mail address.
  let slashed := ['/', '/'].isPrefixOf rest
  let hostless := isHostless protocol
  let url : Url := { protocol, slashes := slashed && !hostless }
  let rest := if url.slashes then rest.drop 2 else rest
  if !hostless && (slashed || (protocol.isSome && !isSlashed protocol)) then
    let (url, rest) := url.readHost rest
    url.readPath rest
  else url.readPath rest

/-- Writes an address. -/
def render (url : Url) : List Char :=
  url.protocol.getD [] ++
  (if url.slashes then ['/', '/'] else []) ++
  (match url.auth with
    | some (c :: rest) => c :: rest ++ ['@']
    | _ => []) ++
  (match url.hostname with
    | some host => if host.contains ':' then '[' :: host ++ [']'] else host
    | none => []) ++
  (match url.port with
    | some port => ':' :: port
    | none => []) ++
  url.path ++ url.query ++ url.fragment

end Url

end CodeHighlight
