/-!
# Sets of line numbers

A line set is a list of inclusive spans. `LineSet.ofPairs` sorts and merges, so that the spans
ascend with a gap between neighbours and two sets with the same members are equal. Membership and
size never expand a span.
-/

namespace CodeHighlight

/-- An inclusive span of line numbers. -/
structure Span where
  first : Int
  last : Int
deriving Repr, DecidableEq

namespace Span

/-- Number of lines; negative for a span that ends before it begins. -/
def size (s : Span) : Int := s.last - s.first + 1

/-- The line lies in the span. -/
def contains (s : Span) (line : Int) : Bool := s.first ≤ line && line ≤ s.last

/-- The first lines of a span, ascending, at most `limit` of them. -/
def take (limit : Nat) (s : Span) : List Int :=
  (List.range (min limit s.size.toNat)).map fun i => s.first + Int.ofNat i

/-- Order by the first line, then by the last. -/
def precedes (a b : Span) : Bool := a.first < b.first || (a.first == b.first && a.last ≤ b.last)

/-- The span between two line numbers in either order. -/
def between (a b : Int) : Span := ⟨min a b, max a b⟩

end Span

/-- Line numbers given by inclusive spans. -/
structure LineSet where
  spans : List Span
deriving Repr, DecidableEq

namespace LineSet

/-- Extends `s` by the spans that overlap or touch it and puts the others behind. -/
def absorb (s : Span) : List Span → List Span
  | [] => [s]
  | t :: rest =>
    -- The spans come in the order of their first lines, so the union begins where `s` does.
    if t.first ≤ s.last + 1 then absorb ⟨s.first, max s.last t.last⟩ rest
    else s :: absorb t rest

/-- Merges ascending spans that overlap or touch. -/
def merge : List Span → List Span
  | [] => []
  | s :: rest => absorb s rest

/-- The set of all lines that lie between the members of some pair. -/
def ofPairs (pairs : List (Int × Int)) : LineSet :=
  ⟨merge ((pairs.map fun p => Span.between p.1 p.2).mergeSort Span.precedes)⟩

/-- The set of the given lines. -/
def ofLines (lines : List Int) : LineSet := ofPairs (lines.map fun n => (n, n))

/-- The set without members. -/
def empty : LineSet := ⟨[]⟩

/-- The line is a member. -/
def contains (s : LineSet) (line : Int) : Bool := s.spans.any (·.contains line)

/-- A line is a member if some span holds it. -/
instance : Membership Int LineSet where
  mem s line := s.contains line = true

/-- Membership is decided by the spans. -/
instance (s : LineSet) (line : Int) : Decidable (line ∈ s) :=
  inferInstanceAs (Decidable (s.contains line = true))

/-- The set has no span. -/
def isEmpty (s : LineSet) : Bool := s.spans.isEmpty

/-- The sum of the sizes of all spans. -/
def count (s : LineSet) : Int := s.spans.foldr (fun t n => t.size + n) 0

/-- The first members in ascending order, at most `limit` of them. -/
def take (limit : Nat) (s : LineSet) : List Int :=
  go limit s.spans
where
  /-- Takes from one span after the other. -/
  go : Nat → List Span → List Int
    | _, [] => []
    | limit, s :: rest =>
      let head := s.take limit
      head ++ go (limit - head.length) rest

/-- All members in ascending order. -/
def toList (s : LineSet) : List Int := s.spans.flatMap fun t => t.take t.size.toNat

/-- The largest size that is reported. -/
def sizeLimit : Int := 9223372036854775807

/-- Why a size is not reported. -/
inductive SizeFault where
  /-- More members than a size can say. -/
  | tooLarge
deriving Repr, DecidableEq

/-- The wording of a fault. -/
def SizeFault.message : SizeFault → String
  | .tooLarge => "cannot fit 'int' into an index-sized integer"

/-- The number of members. -/
def size (s : LineSet) : Except SizeFault Int :=
  if s.count ≤ sizeLimit then .ok s.count else .error .tooLarge

/-- Spans ascend and at least one line lies between neighbours. -/
def Canonical (s : LineSet) : Prop :=
  (∀ t ∈ s.spans, t.first ≤ t.last) ∧ s.spans.Pairwise fun a b => a.last + 1 < b.first

end LineSet

end CodeHighlight
