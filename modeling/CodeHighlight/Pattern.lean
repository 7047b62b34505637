import CodeHighlight.Text.Blank
import CodeHighlight.Text.Digit
import CodeHighlight.Text.Letter

/-!
# Patterns

A pattern describes texts and is matched from a place in a text on, first choice first. Choices and
repetitions are tried in the order written, and a later part that fails sends the search back to the
next choice. Marked parts of the match are reported by their place.

The matcher is structural in the pattern: the rest of the search is a function that is called with
the place reached. A repetition goes on only when its body took a character, so the number of
characters left bounds it.
-/

namespace CodeHighlight

/-- A place in a text: the characters passed, the nearest first, and those to come. -/
structure Place where
  before : List Char
  rest : List Char
  offset : Nat
  marks : List (Nat × Nat × Nat) := []

namespace Place

/-- The beginning of a text. -/
def start (text : List Char) : Place := ⟨[], text, 0, []⟩

/-- The place behind the next character. -/
def step (p : Place) (c : Char) (rest : List Char) : Place :=
  { p with before := c :: p.before, rest, offset := p.offset + 1 }

/-- The place lies at the beginning of a line. -/
def atLineStart (p : Place) : Bool := p.before.head?.all (· = '\n')

/-- The place lies at the end of a line. -/
def atLineEnd (p : Place) : Bool := p.rest.head?.all (· = '\n')

/-- The place lies at the end of the text or before its last character, a line feed. -/
def atTextEnd (p : Place) : Bool :=
  match p.rest with
  | [] => true
  | ['\n'] => true
  | _ => false

/-- The place lies between a word character and anything else. -/
def atWordBoundary (p : Place) : Bool :=
  p.before.head?.any Text.isWordChar != p.rest.head?.any Text.isWordChar

/-- The characters between two places of one text. -/
def textUpTo (p q : Place) : List Char := p.rest.take (q.offset - p.offset)

/-- The text of a marked part of a match that began at `p`. -/
def marked? (p q : Place) (mark : Nat) : Option (List Char) :=
  (q.marks.lookup mark).map fun (first, last) =>
    (p.rest.drop (first - p.offset)).take (last - first)

end Place

/-- A description of texts. -/
inductive Pattern where
  /-- The empty text. -/
  | empty
  /-- One character of a class. -/
  | one (test : Char → Bool)
  /-- One text after the other. -/
  | both (first second : Pattern)
  /-- Either text; the first is tried first. -/
  | either (first second : Pattern)
  /-- At least `least` texts and at most `most`; as many as possible, or as few if not greedy. -/
  | repeated (body : Pattern) (least : Nat) (most : Option Nat) (greedy : Bool)
  /-- A text whose place is reported under a number. -/
  | marked (mark : Nat) (body : Pattern)
  /-- The text to come does not match. -/
  | notAhead (body : Pattern)
  /-- The text to come matches. -/
  | ahead (body : Pattern)
  /-- A property of the place. -/
  | at (test : Place → Bool)

namespace Pattern

/-- Where a match ends, if it does; the argument is the rest of the search. -/
abbrev Rest := Place → Option Place

/-- The search for a repetition of `body`, `done` times matched so far. -/
def repetition (body : Rest → Place → Option Place) (least : Nat) (most : Option Nat)
    (greedy : Bool) (k : Rest) : Nat → Nat → Place → Option Place
  | 0, done, p => if least ≤ done then k p else none
  | fuel + 1, done, p =>
    let more (_ : Unit) : Option Place :=
      if most.all (done < ·) then
        body (fun q =>
          -- A body that took nothing counts once; tried again, it would take nothing again.
          if q.offset = p.offset then (if least ≤ done + 1 then k q else none)
          else repetition body least most greedy k fuel (done + 1) q) p
      else none
    if done < least then more ()
    else if greedy then (more ()).or (k p)
    else (k p).or (more ())

/-- Searches for a match from a place on and goes on with the rest of the search. -/
def search : Pattern → Rest → Place → Option Place
  | empty, k, p => k p
  | one test, k, p =>
    match p.rest with
    | [] => none
    | c :: rest => if test c then k (p.step c rest) else none
  | both a b, k, p => a.search (fun q => b.search k q) p
  | either a b, k, p => (a.search k p).or (b.search k p)
  | repeated body least most greedy, k, p =>
    repetition body.search least most greedy k (p.rest.length + least + 1) 0 p
  | marked mark body, k, p =>
    body.search (fun q => k { q with marks := (mark, p.offset, q.offset) :: q.marks }) p
  | notAhead body, k, p => if (body.search some p).isSome then none else k p
  | ahead body, k, p => if (body.search some p).isSome then k p else none
  | «at» test, k, p => if test p then k p else none

/-- The end of the first match that begins at a place. -/
def matchAt? (pattern : Pattern) (p : Place) : Option Place :=
  pattern.search some { p with marks := [] }

/-- A match begins at the front of a text. -/
def startsText (pattern : Pattern) (text : List Char) : Bool :=
  (pattern.matchAt? (.start text)).isSome

/-- A match begins somewhere in the text from a place on. -/
def foundFrom (pattern : Pattern) : Nat → Place → Bool
  | 0, p => (pattern.matchAt? p).isSome
  | fuel + 1, p =>
    (pattern.matchAt? p).isSome ||
      match p.rest with
      | [] => false
      | c :: rest => pattern.foundFrom fuel (p.step c rest)

/-- A match begins somewhere in a text. -/
def foundIn (pattern : Pattern) (text : List Char) : Bool :=
  pattern.foundFrom text.length (.start text)

/-- One pattern after the other. -/
instance : Append Pattern := ⟨both⟩

/-- The second pattern where the first leads nowhere. -/
instance : OrElse Pattern := ⟨fun a b => either a (b ())⟩

/-- Exactly one character. -/
def char (c : Char) : Pattern := one (· = c)

/-- Exactly the given text. -/
def chars : List Char → Pattern
  | [] => empty
  | [c] => char c
  | c :: rest => char c ++ chars rest

/-- Exactly the given text. -/
def text (s : String) : Pattern := chars s.toList

/-- One of the given characters. -/
def among (s : String) : Pattern :=
  let cs := s.toList
  one cs.contains

/-- One character that is not among those given. -/
def notAmong (s : String) : Pattern :=
  let cs := s.toList
  one fun c => !cs.contains c

/-- Any character except a line feed. -/
def dot : Pattern := one (· ≠ '\n')

/-- Any character. -/
def anything : Pattern := one fun _ => true

/-- A decimal digit. -/
def digit : Pattern := one Text.isDigit

/-- A blank. -/
def blank : Pattern := one Text.isBlank

/-- A word character. -/
def wordChar : Pattern := one Text.isWordChar

/-- A digit, or a letter from `a` to `f`. -/
def hexDigit : Pattern :=
  one fun c => c.isDigit || ('a' ≤ c && c ≤ 'f') || ('A' ≤ c && c ≤ 'F')

/-- As many as possible. -/
def many (p : Pattern) : Pattern := repeated p 0 none true

/-- At least one, as many as possible. -/
def many1 (p : Pattern) : Pattern := repeated p 1 none true

/-- One or none. -/
def maybe (p : Pattern) : Pattern := repeated p 0 (some 1) true

/-- As few as possible. -/
def few (p : Pattern) : Pattern := repeated p 0 none false

/-- A fixed number. -/
def times (p : Pattern) (n : Nat) : Pattern := repeated p n (some n) true

/-- Between two numbers, as many as possible. -/
def between (p : Pattern) (least most : Nat) : Pattern := repeated p least (some most) true

/-- The first of the given patterns that leads to a match. -/
def choice : List Pattern → Pattern
  | [] => one fun _ => false
  | [p] => p
  | p :: rest => either p (choice rest)

/-- One pattern after the other. -/
def sequence : List Pattern → Pattern
  | [] => empty
  | [p] => p
  | p :: rest => both p (sequence rest)

/-- The beginning of a line. -/
def lineStart : Pattern := «at» Place.atLineStart

/-- The end of a line. -/
def lineEnd : Pattern := «at» Place.atLineEnd

/-- The beginning of the text. -/
def textStart : Pattern := «at» (·.offset = 0)

/-- The end of the text. -/
def textEnd : Pattern := «at» Place.atTextEnd

/-- A word boundary. -/
def wordEdge : Pattern := «at» Place.atWordBoundary

/-- The character passed last is not `c`. -/
def notAfter (c : Char) : Pattern := «at» fun p => p.before.head? ≠ some c

/-- One of the given words, a longer one first. -/
def words (list : List String) : Pattern :=
  choice ((list.mergeSort fun a b => b.length ≤ a.length).map text)

end Pattern

end CodeHighlight
