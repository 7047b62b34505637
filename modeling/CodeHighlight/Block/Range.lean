import CodeHighlight.Lexer.Token
import CodeHighlight.Text.Blank
import CodeHighlight.Text.Units

/-!
# Ranges of tokens

A block is shown line by line, so every token is cut at its line feeds. The place of a piece is the
number of its line and the offsets of its ends in that line, in sixteen-bit units. Ranges are
grouped by the short key of their kind; pieces without a key are left out.
-/

namespace CodeHighlight

/-- A part of a line, in sixteen-bit units from the line's beginning. -/
structure LineRange where
  line : Nat
  first : Nat
  last : Nat
deriving Repr, DecidableEq

/-- A token's share of one line. -/
structure Piece where
  key : Option String
  text : List Char
  range : LineRange
deriving Repr, DecidableEq

namespace Piece

/-- The pieces of one token's text, cut at line feeds, and the place behind it. The first part
begins at `column`, every further one at the beginning of the next line. -/
def ofParts (key : Option String) (line column : Nat) : List (List Char) → List Piece × Nat × Nat
  | [] => ([], line, column)
  | [part] =>
    let last := column + Text.units part
    (if part.isEmpty then [] else [⟨key, part, ⟨line, column, last⟩⟩], line, last)
  | part :: rest =>
    let (pieces, place) := ofParts key (line + 1) 0 rest
    (if part.isEmpty then pieces
      else ⟨key, part, ⟨line, column, column + Text.units part⟩⟩ :: pieces, place)

/-- The pieces of tokens that begin at a place. -/
def ofTokensFrom (line column : Nat) : List Token → List Piece
  | [] => []
  | token :: rest =>
    let (pieces, line, column) := ofParts token.kind.key? line column (Text.splitAt '\n' token.text)
    pieces ++ ofTokensFrom line column rest

/-- The pieces of a block's tokens; none is empty. -/
def ofTokens (tokens : List Token) : List Piece := ofTokensFrom 0 0 tokens

/-- The key and the range of a piece that has a key. -/
def keyed? (p : Piece) : Option (String × LineRange) := p.key.map fun key => (key, p.range)

end Piece

/-- Ranges by key; keys stand in the order of their first appearance. -/
structure RangeGroups where
  groups : List (String × List LineRange) := []
deriving Repr, DecidableEq

namespace RangeGroups

/-- Appends a range to a key's group; a new key opens a group at the end. -/
def insertInto (key : String) (range : LineRange) :
    List (String × List LineRange) → List (String × List LineRange)
  | [] => [(key, [range])]
  | (k, ranges) :: rest =>
    if k = key then (k, ranges ++ [range]) :: rest else (k, ranges) :: insertInto key range rest

/-- Appends a range to a key's group. -/
def insert (g : RangeGroups) (key : String) (range : LineRange) : RangeGroups :=
  ⟨insertInto key range g.groups⟩

/-- Groups ranges by key. -/
def ofList (ranges : List (String × LineRange)) : RangeGroups :=
  ranges.foldl (fun g r => g.insert r.1 r.2) {}

/-- The ranges of the pieces that have a key. -/
def ofTokens (tokens : List Token) : RangeGroups :=
  ofList ((Piece.ofTokens tokens).filterMap Piece.keyed?)

/-- The keys in order. -/
def keys (g : RangeGroups) : List String := g.groups.map Prod.fst

end RangeGroups

end CodeHighlight
