import CodeHighlight.Lexer.Basic

/-!
# Lexer for JSON

The text is cut into lexemes by the first character of each. Nothing is validated: a number is any
run of number characters, a constant any run of letters of the three constants. A string is the name
of a member when the next lexeme, blanks, comments and strings apart, begins with a colon.
-/

namespace CodeHighlight.Lexer.JsonText

/-- A piece of the text before names are told from strings. -/
inductive Lexeme where
  /-- A complete string. -/
  | string (text : List Char)
  /-- A run of blanks or a comment. -/
  | gap (kind : TokenKind) (text : List Char)
  /-- A run of punctuation that begins with a colon. -/
  | colon (text : List Char)
  /-- Anything else. -/
  | other (kind : TokenKind) (text : List Char)
deriving Repr, DecidableEq

/-- Blanks between lexemes. -/
def isGap (c : Char) : Bool := c ∈ [' ', '\n', '\r', '\t']

/-- Letters of the three constants. -/
def isConstantLetter (c : Char) : Bool := c ∈ "truefalsenull".toList

/-- Characters that begin a number. -/
def isNumberStart (c : Char) : Bool := c = '-' || c.isDigit

/-- Characters that make a number a fraction. -/
def isFractionMark (c : Char) : Bool := c ∈ ['.', 'e', 'E', '+']

/-- Characters of a punctuation run. -/
def isPunctuation (c : Char) : Bool := c ∈ ['\x7b', '\x7d', '[', ']', ',']

/-- What the last characters of an open string ask for. -/
inductive Escape where
  /-- Nothing. -/
  | none
  /-- The character behind a backslash. -/
  | letter
  /-- At most so many hexadecimal digits. -/
  | digits (left : Nat)

/-- The length of a string behind its opening mark, closing mark included; none if it stays open.
The first character that is no digit ends a numeric escape and belongs to it. -/
def stringLength? : Escape → List Char → Option Nat
  | _, [] => none
  | .digits left, c :: rest =>
    let isHex := c.isDigit || ('a' ≤ c && c ≤ 'f') || ('A' ≤ c && c ≤ 'F')
    let next := if isHex && 1 < left then Escape.digits (left - 1) else .none
    (stringLength? next rest).map (· + 1)
  | .letter, c :: rest =>
    (stringLength? (if c = 'u' then .digits 4 else .none) rest).map (· + 1)
  | .none, c :: rest =>
    if c = '\\' then (stringLength? .letter rest).map (· + 1)
    else if c = '"' then some 1
    else (stringLength? .none rest).map (· + 1)

/-- The length of a comment behind its opening, closing included; none if it stays open. -/
def commentLength? (starred : Bool) : List Char → Option Nat
  | [] => none
  | c :: rest =>
    if starred && c = '/' then some 1 else (commentLength? (c = '*') rest).map (· + 1)

/-- The first lexeme of a text that begins with `c`, and its length less one. -/
def firstLexeme (c : Char) (rest : List Char) : Lexeme × Nat :=
  let run (p : Char → Bool) : List Char := rest.takeWhile p
  if c = '"' then
    match stringLength? .none rest with
    | some n => (.string (c :: rest.take n), n)
    | none => (.other .error (c :: rest), rest.length)
  else if isGap c then
    let tail := run isGap
    (.gap .whitespace (c :: tail), tail.length)
  else if c = 'f' ∨ c = 'n' ∨ c = 't' then
    let tail := run isConstantLetter
    (.other (.sub .keyword "Constant") (c :: tail), tail.length)
  else if isNumberStart c then
    let tail := run fun d => isNumberStart d || isFractionMark d
    let kind := if tail.any isFractionMark then "Float" else "Integer"
    (.other (.sub .number kind) (c :: tail), tail.length)
  else if c = ':' then
    let tail := run isPunctuation
    (.colon (c :: tail), tail.length)
  else if isPunctuation c then
    let tail := run isPunctuation
    (.other .punctuation (c :: tail), tail.length)
  else if c = '/' then
    match rest with
    | '/' :: more =>
      let tail := more.takeWhile (· ≠ '\n')
      (.gap (.sub .comment "Single") (c :: '/' :: tail), tail.length + 1)
    | '*' :: more =>
      match commentLength? false more with
      | some n => (.gap (.sub .comment "Multiline") (c :: '*' :: more.take n), n + 1)
      | none => (.other .error (c :: rest), rest.length)
    | _ => (.other .error [c], 0)
  else (.other .error [c], 0)

/-- The lexemes of a text. -/
def lexemes : List Char → List Lexeme
  | [] => []
  | c :: rest =>
    let found := firstLexeme c rest
    found.1 :: lexemes (rest.drop found.2)
termination_by text => text.length
decreasing_by
  simp only [List.length_drop, List.length_cons]
  omega

/-- The tokens of lexemes, and whether a colon comes next. -/
def resolve : List Lexeme → List Token × Bool
  | [] => ([], false)
  | lexeme :: rest =>
    -- Blanks and comments, and strings themselves, leave open what comes next.
    let (tokens, colonAhead) := resolve rest
    match lexeme with
    | .string text =>
      let kind := if colonAhead then TokenKind.sub .name "Tag" else .sub .string "Double"
      (⟨kind, text⟩ :: tokens, colonAhead)
    | .gap kind text => (⟨kind, text⟩ :: tokens, colonAhead)
    | .colon text => (⟨.punctuation, text⟩ :: tokens, true)
    | .other kind text => (⟨kind, text⟩ :: tokens, false)

/-- The tokens of a text. -/
def tokens (text : List Char) : List Token := (resolve (lexemes text)).1

end CodeHighlight.Lexer.JsonText

namespace CodeHighlight.Lexer

/-- The lexer for JSON. -/
def json : Lexer := ofFunction "JsonLexer" "JSON" ["json", "json-object"] JsonText.tokens

end CodeHighlight.Lexer
