import CodeHighlight.Yaml.Cursor

/-!
# Block scalars

A block scalar is a run of indented lines behind a header. The header tells whether the lines are
folded into one, how deep they are indented, and what becomes of the line breaks at the end. Without
a depth the deepest of the empty lines and the first other line decide it.
-/

namespace CodeHighlight.Yaml.Block

/-- What becomes of the line breaks at the end. -/
inductive Chomping where
  /-- The first one stays. -/
  | clip
  /-- All stay. -/
  | keep
  /-- None stays. -/
  | strip
deriving DecidableEq

/-- The header of a block scalar. -/
structure Header where
  chomping : Chomping := .clip
  /-- How much deeper than their container the lines are. -/
  depth : Option Nat := none

/-- The chomping that a sign asks for. -/
def chomping? : Char → Option Chomping
  | '+' => some .keep
  | '-' => some .strip
  | _ => none

/-- The depth that a digit writes; zero is refused. -/
def depth? (c : Char) : Option (Option Nat) :=
  if c = '0' then some none
  else if '1' ≤ c ∧ c ≤ '9' then some (some (c.toNat - 48))
  else none

/-- Reads the signs of a header, in either order, and its line. -/
def header? (text : List Char) : Option (Header × List Char) := do
  let (chomping, text) := match text with
    | c :: rest => match chomping? c with
      | some chomping => (some chomping, rest)
      | none => (none, text)
    | [] => (none, text)
  let (depth, text) ← match text with
    | c :: rest => match depth? c with
      | some none => none
      | some depth => some (depth, rest)
      | none => some (none, text)
    | [] => some (none, text)
  let (chomping, text) := match chomping, depth, text with
    | none, some _, c :: rest => match chomping? c with
      | some chomping => (some chomping, rest)
      | none => (none, text)
    | _, _, _ => (chomping, text)
  if !atSpace text then none
  let rest ← closeLine? text
  return (⟨chomping.getD .clip, depth⟩, rest)

/-- Empty lines and the spaces before the line behind them. -/
structure Margin where
  breaks : Nat
  column : Nat
  rest : List Char

/-- Passes empty lines and at most `indent` spaces of each line. -/
def margin (indent column : Nat) : List Char → Margin
  | [] => ⟨0, column, []⟩
  | c :: rest =>
    if c = '\n' then
      let below := margin indent 0 rest
      { below with breaks := below.breaks + 1 }
    else if c = ' ' ∧ column < indent then margin indent (column + 1) rest
    else ⟨0, column, c :: rest⟩

/-- Passes empty lines and all spaces of each line, and finds the deepest column reached. -/
def deepMargin (column deepest : Nat) : List Char → Margin × Nat
  | [] => (⟨0, column, []⟩, deepest)
  | c :: rest =>
    if c = '\n' then
      let (below, deepest) := deepMargin 0 deepest rest
      ({ below with breaks := below.breaks + 1 }, deepest)
    else if c = ' ' then deepMargin (column + 1) (max deepest (column + 1)) rest
    else (⟨0, column, c :: rest⟩, deepest)

/-- The line behind a margin belongs to the scalar. -/
def Margin.holds (m : Margin) (indent : Nat) : Bool := m.column = indent && !m.rest.isEmpty

/-- A space or a tab comes next. -/
def atBlank (text : List Char) : Bool := text.head?.any fun c => c = ' ' || c = '\t'

/-- The lines from a margin on. `ended` tells whether a line break stands before the margin. -/
def readLines (folded : Bool) (chomping : Chomping) (indent : Nat) :
    Nat → Bool → Margin → List Char × List Char
  | 0, _, m => ([], m.rest)
  | fuel + 1, ended, m =>
    if m.holds indent then
      let line := m.rest.takeWhile (· ≠ '\n')
      let after := dropLine m.rest
      let next :=
        if after.isEmpty then ⟨0, indent + line.length, []⟩ else margin indent 0 (after.drop 1)
      let joint :=
        if next.holds indent then
          if folded && !atBlank m.rest && !atBlank next.rest then
            (if next.breaks = 0 then [' '] else [])
          else ['\n']
        else []
      let (text, rest) := readLines folded chomping indent fuel (!after.isEmpty) next
      let breaks := if next.holds indent then List.replicate next.breaks '\n' else []
      (line ++ joint ++ breaks ++ text, rest)
    else
      let last := if ended && chomping ≠ .strip then ['\n'] else []
      let kept := if chomping = .keep then List.replicate m.breaks '\n' else []
      (last ++ kept, m.rest)

/-- Reads a block scalar behind its first character; `indent` is the column of its container. -/
def read? (folded : Bool) (indent : Int) (text : List Char) : Option (List Char × List Char) := do
  let (header, rest) ← header? text
  let least := (max 1 (indent + 1)).toNat
  let (start, indent) := match header.depth with
    | some depth =>
      let indent := least + depth - 1
      (margin indent 0 rest, indent)
    | none =>
      let (start, deepest) := deepMargin 0 0 rest
      (start, max least deepest)
  let front := if start.holds indent then List.replicate start.breaks '\n' else []
  let (lines, rest) := readLines folded header.chomping indent (rest.length + 1) false start
  return (front ++ lines, rest)

end CodeHighlight.Yaml.Block
