import CodeHighlight.LineSet

/-!
# Line sets in canonical form

Pairs of line numbers, in any order and overlapping as they may, give a set whose spans ascend with
a gap between them. The set holds the lines between the members of some pair, and it depends on
nothing else: sets that hold the same lines are equal.
-/

namespace CodeHighlight

namespace Span

/-- One of the spans holds the line. -/
def Cover (spans : List Span) (n : Int) : Prop := ∃ s ∈ spans, s.first ≤ n ∧ n ≤ s.last

/-- No span holds nothing. -/
@[simp] theorem cover_nil (n : Int) : ¬ Cover [] n := by
  rintro ⟨s, hs, -⟩
  cases hs

/-- The first span holds the line, or a later one does. -/
@[simp] theorem cover_cons (s : Span) (rest : List Span) (n : Int) :
    Cover (s :: rest) n ↔ (s.first ≤ n ∧ n ≤ s.last) ∨ Cover rest n := by
  simp only [Cover, List.mem_cons, exists_eq_or_imp]

/-- Spans that hold a line each and ascend by their first lines, as they are merged. -/
structure Ascending (spans : List Span) : Prop where
  first_le_last : ∀ s ∈ spans, s.first ≤ s.last
  ordered : spans.Pairwise fun a b => a.first ≤ b.first

namespace Ascending

/-- The later spans ascend as well. -/
theorem tail (s : Span) (rest : List Span) (h : Ascending (s :: rest)) : Ascending rest :=
  ⟨fun t ht => h.first_le_last t (List.mem_cons_of_mem s ht), h.ordered.tail⟩

/-- The first span may be extended by the second one. -/
theorem extend (s t : Span) (rest : List Span) (h : Ascending (s :: t :: rest)) :
    Ascending (⟨s.first, max s.last t.last⟩ :: rest) := by
  have hs := h.first_le_last s List.mem_cons_self
  have hrest := h.tail.tail
  have hbefore := (List.pairwise_cons.mp h.ordered).1
  constructor
  · rw [List.forall_mem_cons]
    refine ⟨?_, hrest.first_le_last⟩
    change s.first ≤ max s.last t.last
    omega
  · rw [List.pairwise_cons]
    exact ⟨fun u hu => hbefore u (List.mem_cons_of_mem t hu), hrest.ordered⟩

end Ascending

end Span

namespace LineSet

open CodeHighlight.Span (Cover Ascending)

/-- A line is a member if one of the spans holds it. -/
theorem mem_iff (s : LineSet) (n : Int) : n ∈ s ↔ Cover s.spans n := by
  change s.contains n = true ↔ _
  simp only [contains, Span.contains, List.any_eq_true, Bool.and_eq_true, decide_eq_true_eq, Cover]

/-- Absorbing neither loses nor adds a line. -/
theorem cover_absorb (s : Span) (rest : List Span) (h : Ascending (s :: rest)) (n : Int) :
    Cover (absorb s rest) n ↔ Cover (s :: rest) n := by
  induction rest generalizing s with
  | nil => rfl
  | cons t rest ih =>
    rw [absorb]
    by_cases htouch : t.first ≤ s.last + 1
    · -- The extended span holds what both held, for `t` begins inside `s` or right behind it.
      have hs := h.first_le_last s List.mem_cons_self
      have ht := h.first_le_last t (List.mem_cons_of_mem s List.mem_cons_self)
      have hst := (List.pairwise_cons.mp h.ordered).1 t List.mem_cons_self
      have hboth : s.first ≤ n ∧ n ≤ max s.last t.last ↔
          (s.first ≤ n ∧ n ≤ s.last) ∨ (t.first ≤ n ∧ n ≤ t.last) := by
        omega
      rw [if_pos htouch, ih _ (h.extend s t rest)]
      simp only [Span.cover_cons]
      rw [hboth, or_assoc]
    · rw [if_neg htouch, Span.cover_cons, ih t h.tail, ← Span.cover_cons]

/-- Merged spans hold the lines that they held before. -/
theorem cover_merge (spans : List Span) (h : Ascending spans) (n : Int) :
    Cover (merge spans) n ↔ Cover spans n := by
  cases spans with
  | nil => rfl
  | cons s rest => exact cover_absorb s rest h n

private theorem first_le_of_mem_absorb (s : Span) (rest : List Span) (h : Ascending (s :: rest))
    (u : Span) (hu : u ∈ absorb s rest) : s.first ≤ u.first := by
  induction rest generalizing s with
  | nil =>
    rw [absorb, List.mem_singleton] at hu
    exact Int.le_of_eq (congrArg Span.first hu.symm)
  | cons t rest ih =>
    rw [absorb] at hu
    by_cases htouch : t.first ≤ s.last + 1
    · rw [if_pos htouch] at hu
      exact ih ⟨s.first, max s.last t.last⟩ (h.extend s t rest) hu
    · rw [if_neg htouch] at hu
      rcases List.mem_cons.mp hu with rfl | hlater
      · exact Int.le_refl _
      · have hst := (List.pairwise_cons.mp h.ordered).1 t List.mem_cons_self
        exact Int.le_trans hst (ih t h.tail hlater)

/-- A set is canonical if its first span lies apart from the others and these are canonical. -/
theorem canonical_cons (s : Span) (rest : List Span) :
    Canonical ⟨s :: rest⟩ ↔
      s.first ≤ s.last ∧ (∀ t ∈ rest, s.last + 1 < t.first) ∧ Canonical ⟨rest⟩ := by
  simp only [Canonical, List.forall_mem_cons, List.pairwise_cons]
  constructor
  · rintro ⟨⟨hs, hrest⟩, hapart, hpairs⟩
    exact ⟨hs, hapart, hrest, hpairs⟩
  · rintro ⟨hs, hapart, hrest, hpairs⟩
    exact ⟨⟨hs, hrest⟩, hapart, hpairs⟩

/-- A span that has absorbed all it touches lies apart from the others. -/
theorem canonical_absorb (s : Span) (rest : List Span) (h : Ascending (s :: rest)) :
    Canonical ⟨absorb s rest⟩ := by
  induction rest generalizing s with
  | nil =>
    rw [absorb, canonical_cons]
    exact ⟨h.first_le_last s List.mem_cons_self, List.forall_mem_nil _,
      List.forall_mem_nil _, List.Pairwise.nil⟩
  | cons t rest ih =>
    rw [absorb]
    by_cases htouch : t.first ≤ s.last + 1
    · rw [if_pos htouch]
      exact ih _ (h.extend s t rest)
    · rw [if_neg htouch, canonical_cons]
      refine ⟨h.first_le_last s List.mem_cons_self, ?_, ih t h.tail⟩
      intro u hu
      have htu := first_le_of_mem_absorb t rest h.tail u hu
      omega

/-- Merging leaves a gap between neighbours. -/
theorem canonical_merge (spans : List Span) (h : Ascending spans) : Canonical ⟨merge spans⟩ := by
  cases spans with
  | nil => exact ⟨List.forall_mem_nil _, List.Pairwise.nil⟩
  | cons s rest => exact canonical_absorb s rest h

/-- Later members of a canonical set lie behind a gap. -/
theorem Canonical.lt_of_cover (s : Span) (rest : List Span) (h : Canonical ⟨s :: rest⟩) (n : Int)
    (hn : Cover rest n) : s.last + 1 < n := by
  obtain ⟨t, ht, hfirst, -⟩ := hn
  have hgap := ((canonical_cons s rest).mp h).2.1 t ht
  omega

private theorem Canonical.first_le_of_cover (s : Span) (rest : List Span)
    (h : Canonical ⟨s :: rest⟩) (n : Int) (hn : Cover (s :: rest) n) : s.first ≤ n := by
  have hs := ((canonical_cons s rest).mp h).1
  rcases (Span.cover_cons s rest n).mp hn with hfirst | hlater
  · exact hfirst.1
  · have hgap := h.lt_of_cover s rest n hlater
    omega

private theorem Canonical.cover_first (s : Span) (rest : List Span) (h : Canonical ⟨s :: rest⟩) :
    Cover (s :: rest) s.first := by
  rw [Span.cover_cons]
  exact Or.inl ⟨Int.le_refl _, ((canonical_cons s rest).mp h).1⟩

private theorem last_le_of_cover (s t : Span) (as bs : List Span) (ha : Canonical ⟨s :: as⟩)
    (hfirst : s.first = t.first) (h : ∀ n, Cover (t :: bs) n → Cover (s :: as) n) :
    t.last ≤ s.last := by
  -- Otherwise the line behind `s`, which no span of the one set holds, would lie in `t`.
  by_cases hlast : t.last ≤ s.last
  · exact hlast
  · have hs := ((canonical_cons s as).mp ha).1
    have hnext : Cover (t :: bs) (s.last + 1) := by
      rw [Span.cover_cons]
      left
      omega
    rcases (Span.cover_cons s as _).mp (h _ hnext) with hin | hlater
    · omega
    · have hgap := ha.lt_of_cover s as _ hlater
      omega

private theorem cover_tail (s : Span) (as bs : List Span) (ha : Canonical ⟨s :: as⟩)
    (h : ∀ n, Cover (s :: as) n → Cover (s :: bs) n) (n : Int) (hn : Cover as n) : Cover bs n := by
  have hgap := ha.lt_of_cover s as n hn
  rcases (Span.cover_cons s bs n).mp (h n ((Span.cover_cons s as n).mpr (Or.inr hn))) with hin | hbs
  · omega
  · exact hbs

private theorem spans_eq (as bs : List Span) (ha : Canonical ⟨as⟩) (hb : Canonical ⟨bs⟩)
    (h : ∀ n, Cover as n ↔ Cover bs n) : as = bs := by
  induction as generalizing bs with
  | nil =>
    cases bs with
    | nil => rfl
    | cons t bs => exact absurd ((h t.first).mpr (hb.cover_first t bs)) (Span.cover_nil _)
  | cons s as ih =>
    cases bs with
    | nil => exact absurd ((h s.first).mp (ha.cover_first s as)) (Span.cover_nil _)
    | cons t bs =>
      -- The first span begins with the least member and ends before the first gap, which both
      -- lists share; so do they share what is left without it.
      have hfirst : s.first = t.first := by
        have hst := ha.first_le_of_cover s as t.first ((h _).mpr (hb.cover_first t bs))
        have hts := hb.first_le_of_cover t bs s.first ((h _).mp (ha.cover_first s as))
        omega
      have hlast : s.last = t.last := by
        have hts := last_le_of_cover s t as bs ha hfirst fun n => (h n).mpr
        have hst := last_le_of_cover t s bs as hb hfirst.symm fun n => (h n).mp
        omega
      have hspan : s = t := by
        cases s
        cases t
        rw [Span.mk.injEq]
        exact ⟨hfirst, hlast⟩
      subst hspan
      rw [ih bs ((canonical_cons s as).mp ha).2.2 ((canonical_cons s bs).mp hb).2.2]
      intro n
      exact ⟨cover_tail s as bs ha (fun m => (h m).mp) n,
        cover_tail s bs as hb (fun m => (h m).mpr) n⟩

/-- Canonical sets with the same members are equal. -/
theorem Canonical.eq_of_mem_iff (a b : LineSet) (ha : a.Canonical) (hb : b.Canonical)
    (h : ∀ n, n ∈ a ↔ n ∈ b) : a = b := by
  have hspans : a.spans = b.spans := by
    apply spans_eq _ _ ha hb
    intro n
    rw [← mem_iff, ← mem_iff, h]
  cases a
  cases b
  rw [LineSet.mk.injEq]
  exact hspans

/-- The line lies between the members of some pair, whichever of the two is the larger. -/
def Enclosed (pairs : List (Int × Int)) (n : Int) : Prop :=
  ∃ p ∈ pairs, (p.1 ≤ n ∧ n ≤ p.2) ∨ (p.2 ≤ n ∧ n ≤ p.1)

/-- The spans of pairs, in the order in which they are merged. -/
def sortedSpans (pairs : List (Int × Int)) : List Span :=
  (pairs.map fun p => Span.between p.1 p.2).mergeSort Span.precedes

private theorem ascending_sortedSpans (pairs : List (Int × Int)) :
    Ascending (sortedSpans pairs) := by
  have trans : ∀ a b c : Span, a.precedes b = true → b.precedes c = true →
      a.precedes c = true := by
    intro a b c
    simp only [Span.precedes, Bool.or_eq_true, Bool.and_eq_true, decide_eq_true_eq, beq_iff_eq]
    omega
  have total : ∀ a b : Span, (a.precedes b || b.precedes a) = true := by
    intro a b
    simp only [Span.precedes, Bool.or_eq_true, Bool.and_eq_true, decide_eq_true_eq, beq_iff_eq]
    omega
  constructor
  · intro s hs
    obtain ⟨p, -, rfl⟩ := List.mem_map.mp ((List.mergeSort_perm _ _).mem_iff.mp hs)
    change min p.1 p.2 ≤ max p.1 p.2
    omega
  · apply (List.pairwise_mergeSort trans total _).imp
    intro a b hab
    simp only [Span.precedes, Bool.or_eq_true, Bool.and_eq_true, decide_eq_true_eq,
      beq_iff_eq] at hab
    omega

private theorem cover_sortedSpans (pairs : List (Int × Int)) (n : Int) :
    Cover (sortedSpans pairs) n ↔ Enclosed pairs n := by
  have hmem : ∀ s, s ∈ sortedSpans pairs ↔ s ∈ pairs.map fun p => Span.between p.1 p.2 :=
    fun s => (List.mergeSort_perm _ _).mem_iff
  have hbetween : ∀ p : Int × Int, min p.1 p.2 ≤ n ∧ n ≤ max p.1 p.2 ↔
      (p.1 ≤ n ∧ n ≤ p.2) ∨ (p.2 ≤ n ∧ n ≤ p.1) := by
    intro p
    omega
  simp only [Cover, hmem, List.mem_map, Enclosed, Span.between, ← hbetween]
  constructor
  · rintro ⟨-, ⟨p, hp, rfl⟩, hn⟩
    exact ⟨p, hp, hn⟩
  · rintro ⟨p, hp, hn⟩
    exact ⟨_, ⟨p, hp, rfl⟩, hn⟩

/-- The members are the lines between the members of some pair. -/
theorem mem_ofPairs (pairs : List (Int × Int)) (n : Int) :
    n ∈ ofPairs pairs ↔ Enclosed pairs n := by
  rw [mem_iff, ← cover_sortedSpans]
  exact cover_merge (sortedSpans pairs) (ascending_sortedSpans pairs) n

/-- The spans of the result ascend with a gap between neighbours. -/
theorem canonical_ofPairs (pairs : List (Int × Int)) : (ofPairs pairs).Canonical :=
  canonical_merge (sortedSpans pairs) (ascending_sortedSpans pairs)

/-- The ends of the spans. -/
def toPairs (s : LineSet) : List (Int × Int) := s.spans.map fun t => (t.first, t.last)

/-- The ends of the spans of a canonical set enclose its members. -/
theorem Canonical.enclosed_toPairs (s : LineSet) (h : s.Canonical) (n : Int) :
    Enclosed s.toPairs n ↔ n ∈ s := by
  rw [mem_iff]
  constructor
  · rintro ⟨p, hp, hn⟩
    obtain ⟨t, ht, rfl⟩ := List.mem_map.mp hp
    have horder := h.1 t ht
    refine ⟨t, ht, ?_⟩
    dsimp only at hn
    omega
  · rintro ⟨t, ht, hn⟩
    exact ⟨_, List.mem_map_of_mem ht, Or.inl hn⟩

/-- The set of pairs is in canonical form: its spans hold a line each and ascend with a gap between
neighbours, its members are the enclosed lines, and pairs that enclose the same lines give equal
sets. So neither order, repetition, direction nor splitting of the pairs shows in the set, and the
ends of its own spans give it back. -/
theorem ofPairs_canonical_form (pairs : List (Int × Int)) :
    (ofPairs pairs).Canonical ∧
      (∀ n, n ∈ ofPairs pairs ↔ Enclosed pairs n) ∧
      (∀ others, ofPairs pairs = ofPairs others ↔ ∀ n, Enclosed pairs n ↔ Enclosed others n) ∧
      ofPairs (ofPairs pairs).toPairs = ofPairs pairs := by
  have heq : ∀ others, (∀ n, Enclosed pairs n ↔ Enclosed others n) →
      ofPairs pairs = ofPairs others := by
    intro others h
    apply Canonical.eq_of_mem_iff _ _ (canonical_ofPairs pairs) (canonical_ofPairs others)
    intro n
    rw [mem_ofPairs, mem_ofPairs, h]
  refine ⟨canonical_ofPairs pairs, mem_ofPairs pairs, ?_, ?_⟩
  · intro others
    constructor
    · intro h n
      rw [← mem_ofPairs, ← mem_ofPairs, h]
    · exact heq others
  · symm
    apply heq
    intro n
    rw [(canonical_ofPairs pairs).enclosed_toPairs, mem_ofPairs]

end LineSet

end CodeHighlight
