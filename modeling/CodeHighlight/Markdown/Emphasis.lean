import CodeHighlight.Markdown.Inline
import CodeHighlight.Text.Punctuation

/-!
# Emphasis

Asterisks and underscores may open or close emphasized text, which depends on the characters around
the run that they stand in. Every closing mark takes the nearest opening one that fits; two pairs
that lie directly inside each other make the text strong.

The search for an opening mark is bounded below: where it failed once for marks of some length, it
need not be tried again further down.
-/

namespace CodeHighlight.Markdown

/-- One mark of a run. -/
structure Delimiter where
  marker : Char
  /-- Marks in the run. -/
  length : Nat
  /-- The place among the pieces of the text. -/
  place : Nat
  opens : Bool
  closes : Bool
  /-- The closing mark that an opening mark was paired with. -/
  partner : Option Nat := none
deriving Repr, DecidableEq

namespace Delimiter

/-- A blank beside a run. -/
def isGap (c : Char) : Bool :=
  let n := c.toNat
  (0x2000 ≤ n && n ≤ 0x200A) || (9 ≤ n && n ≤ 0xD) ||
    [0x20, 0xA0, 0x1680, 0x202F, 0x205F, 0x3000].contains n

/-- Whether a run can open and can close, from the characters before and after it. Underscores do
neither inside a word. -/
def roles (marker before after : Char) : Bool × Bool :=
  let punctuated (c : Char) : Bool := Text.isAsciiPunctuation c || Text.isPunctuation c
  let left := !(isGap after || (punctuated after && !(isGap before || punctuated before)))
  let right := !(isGap before || (punctuated before && !(isGap after || punctuated after)))
  let splits := marker = '*'
  (left && (splits || !right || punctuated before), right && (splits || !left || punctuated after))

/-- The marks do not fit although they are alike: one of them could do both, and their lengths add
up to a multiple of three. -/
def mismatched (opener closer : Delimiter) : Bool :=
  (opener.closes || closer.opens) && (opener.length + closer.length) % 3 = 0 &&
    (opener.length % 3 ≠ 0 || closer.length % 3 ≠ 0)

/-- The state of pairing. -/
structure Pairing where
  marks : Array Delimiter
  /-- Marks to pass over on the way down. -/
  jumps : Array Nat := #[]
  /-- Lower bounds of the search by marker, role and length. -/
  floors : List ((Char × Bool × Nat) × Int) := []
  /-- The first mark of the current run. -/
  head : Nat := 0
  /-- The place of the mark before, if the run may go on. -/
  last : Option Nat := none

namespace Pairing

/-- Marks to pass over below a mark. -/
def jump (p : Pairing) (i : Nat) : Nat := (p.jumps[i]?).getD 0

/-- The nearest opening mark for a closing one, from `at` down to the floor. -/
def opener? (p : Pairing) (closer : Delimiter) (floor : Int) : Nat → Int → Option Nat
  | 0, _ => none
  | steps + 1, i =>
    if i ≤ floor then none
    else match p.marks[i.toNat]? with
      | none => none
      | some opener =>
        if opener.marker = closer.marker && opener.opens && opener.partner.isNone &&
            !mismatched opener closer then some i.toNat
        else p.opener? closer floor steps (i - p.jump i.toNat - 1)

/-- Pairs two marks. -/
def link (p : Pairing) (opener closer : Nat) : Pairing :=
  -- A mark that cannot open is passed over together with what it passes over itself; one that can
  -- open may still find a partner and stays within reach.
  let behind := match opener with
    | 0 => 0
    | before + 1 => match p.marks[before]? with
      | some d => if d.opens then 0 else p.jump before + 1
      | none => 0
  { p with
    marks := (p.marks.modify closer fun d => { d with opens := false }).modify opener fun d =>
      { d with partner := some closer, closes := false }
    jumps := (p.jumps.modify closer fun _ => closer - opener + behind).modify opener fun _ => behind
    last := none }

/-- Looks for the partner of the mark at an index. -/
def step (p : Pairing) (i : Nat) : Pairing :=
  match p.marks[i]? with
  | none => p
  | some closer =>
    let p := { p with jumps := p.jumps.push 0 }
    let sameRun := (p.marks[p.head]?).any (·.marker = closer.marker) &&
      p.last.any (· + 1 = closer.place)
    let p := { p with head := if sameRun then p.head else i, last := some closer.place }
    if !closer.closes then p
    else
      let key := (closer.marker, closer.opens, closer.length % 3)
      let top : Int := (p.head : Int) - p.jump p.head - 1
      match p.opener? closer ((p.floors.lookup key).getD (-1)) (i + 1) top with
      | some opener => p.link opener i
      -- The search failed, so later ones stop where it began; -1 is the bound that holds anyway.
      | none => if top = -1 then p else { p with floors := (key, top) :: p.floors }

end Pairing

/-- Pairs the marks of a text. -/
def pair (marks : Array Delimiter) : Array Delimiter :=
  ((List.range marks.size).foldl Pairing.step { marks }).marks

/-- What takes the places of the paired marks below an index. -/
def replacements (marks : Array Delimiter) : Nat → List (Nat × Inline)
  | 0 => []
  | i + 1 =>
    match marks[i]? with
    | none => []
    | some opener =>
      match opener.partner with
      | none => replacements marks i
      | some last =>
        let place (j : Nat) : Nat := ((marks[j]?).map (·.place)).getD 0
        let outer? : Option Delimiter := if i = 0 then none else marks[i - 1]?
        let strong := outer?.any fun outer =>
          outer.partner = some (last + 1) && outer.marker = opener.marker &&
            outer.place + 1 = opener.place && place (last + 1) = place last + 1
        let found := [(opener.place, Inline.emphasis strong false),
          (place last, Inline.emphasis strong true)]
        if strong then
          found ++ [(opener.place - 1, .text []), (place (last + 1), .text [])] ++
            replacements marks (i - 1)
        else found ++ replacements marks i
termination_by i => i

/-- The pieces of a text with the paired marks replaced. -/
def emphasize (pieces : Array Inline) (marks : Array Delimiter) : List Inline :=
  let marks := pair marks
  ((replacements marks marks.size).foldl (fun (pieces : Array Inline) r =>
    pieces.modify r.1 fun _ => r.2) pieces).toList

end Delimiter

end CodeHighlight.Markdown
