import CodeHighlight.Markdown.Line
import CodeHighlight.Markdown.Target

/-!
# Definitions of labels

A definition gives a label an address and perhaps a title. Each part may stand in the next line; a
title that does not fit is no part of the definition, and the lines that only held it are given
back. -/

namespace CodeHighlight.Markdown

namespace Definition

/-- What is left of a definition: the current line, further lines, and how many were taken. -/
structure Rest where
  text : List Char
  lines : List (List Char)
  taken : Nat := 0

namespace Rest

/-- Goes on in the next line, if there is one. -/
def nextLine (r : Rest) (text : List Char) : Rest :=
  match r.lines with
  | [] => { r with text }
  | line :: lines => ⟨text ++ line, lines, r.taken + 1⟩

/-- Number of characters in lines. -/
def lengthOf (lines : List (List Char)) : Nat := lines.foldr (fun line n => line.length + n) 0

/-- Number of characters that are left. -/
def size (r : Rest) : Nat := r.text.length + lengthOf r.lines

/-- Going on keeps the characters that are left. -/
theorem size_nextLine (r : Rest) (text : List Char) :
    (r.nextLine text).size = text.length + lengthOf r.lines := by
  obtain ⟨_, lines, _⟩ := r
  cases lines <;> simp [nextLine, size, lengthOf, Nat.add_assoc]

end Rest

/-- The label behind its opening bracket, and what follows the closing one. -/
def label? (r : Rest) : Option (List Char × Rest) :=
  match _h : r.text with
  | [] => none
  | '[' :: _ => none
  | ']' :: rest => some ([], { r with text := rest })
  | '\n' :: rest => (label? (r.nextLine rest)).map fun (label, r) => ('\n' :: label, r)
  | '\\' :: '\n' :: rest =>
    (label? (r.nextLine rest)).map fun (label, r) => ('\\' :: '\n' :: label, r)
  | '\\' :: c :: rest =>
    (label? { r with text := rest }).map fun (label, r) => ('\\' :: c :: label, r)
  | c :: rest => (label? { r with text := rest }).map fun (label, r) => (c :: label, r)
termination_by r.size
decreasing_by
  all_goals
    first
    | rw [Rest.size_nextLine]; simp only [Rest.size, _h, List.length_cons]; omega
    | simp only [Rest.size, _h, List.length_cons]; omega

/-- Drops blanks and line feeds. -/
def skipGap (r : Rest) : Rest :=
  match _h : r.text with
  | [] => r
  | c :: rest =>
    if c = '\n' then skipGap (r.nextLine rest)
    else if isSpace c then skipGap { r with text := rest }
    else r
termination_by r.size
decreasing_by
  · rw [Rest.size_nextLine]; simp only [Rest.size, _h, List.length_cons]; omega
  · simp only [Rest.size, _h, List.length_cons]; omega

/-- The title that a mark closes, which may go on over several lines. The flag tells whether it
did. -/
def titleOver? (close : Char) (r : Rest) : Nat → Option (List Char × Bool × Rest)
  | 0 => none
  | steps + 1 =>
    match Target.scanTitle close r.text with
    | .refused => none
    | .closed content rest => some (unescape content, false, { r with text := rest })
    | .unfinished content =>
      match r.lines with
      | [] => none
      | line :: lines =>
        (titleOver? close ⟨line, lines, r.taken + 1⟩ steps).map fun (title, _, r) =>
          (unescape content ++ title, true, r)

/-- The title behind an address. Blanks stand before it, unless it goes on over several lines. -/
def title? (r : Rest) : Option (List Char × Rest) := do
  let start := skipGap r
  let c ← start.text.head?
  let close ← Target.titleEnd? c
  let (title, continued, rest) ← titleOver? close { start with text := start.text.tail }
    (start.lines.length + 1)
  let moved := start.taken ≠ r.taken || start.text.length ≠ r.text.length
  if moved || continued then return (title, rest) else none

/-- Nothing but blanks is left in the line. -/
def atLineEnd (r : Rest) : Bool := (r.text.dropWhile isSpace).head?.all (· = '\n')

/-- The definition at the front of a line that begins with a bracket: its label, what it says, and
how many further lines it takes. -/
def read? (first : List Char) (lines : List (List Char)) :
    Option (List Char × Reference × Nat) := do
  let (label, r) ← label? ⟨first.drop 1, lines, 0⟩
  let r ← match r.text with
    | ':' :: rest => some { r with text := rest }
    | _ => none
  let r := skipGap r
  let (address, rest) ← Target.destination? r.text
  let target := Target.normalize address
  if !Target.isAllowed target then none
  let behind := { r with text := rest }
  let (title, last) := match title? behind with
    | none => (none, behind)
    | some (title, last) =>
      if atLineEnd last || title.isEmpty then (some title, last) else (none, behind)
  let label := Reference.normalizeLabel label
  if !atLineEnd last || label.isEmpty then none
  return (label, ⟨target, title⟩, last.taken)

end Definition

end CodeHighlight.Markdown
