import CodeHighlight.Proofs.LineSet.Canonical

/-!
# The members of a line set

The members can be listed in ascending order. Counting, taking the first few, asking for one and
asking for any read only the spans, and agree with that list.
-/

namespace CodeHighlight

namespace Span

/-- All lines of a span, ascending. -/
def lines (t : Span) : List Int := t.take t.size.toNat

/-- The lines are counted from the first one on. -/
theorem lines_eq (t : Span) :
    t.lines = (List.range t.size.toNat).map fun i => t.first + Int.ofNat i := by
  rw [lines, take, Nat.min_self]

/-- Taking some lines gives the first ones of all. -/
theorem take_eq (limit : Nat) (t : Span) : t.take limit = t.lines.take limit := by
  rw [lines_eq, take, ← List.map_take, List.take_range]

/-- The lines of a span are those from the first to the last. -/
theorem mem_lines (t : Span) (n : Int) : n ∈ t.lines ↔ t.first ≤ n ∧ n ≤ t.last := by
  rw [lines_eq, List.mem_map]
  constructor
  · rintro ⟨i, hi, rfl⟩
    rw [List.mem_range, size] at hi
    change t.first ≤ t.first + (i : Int) ∧ t.first + (i : Int) ≤ t.last
    omega
  · intro hn
    refine ⟨(n - t.first).toNat, ?_, ?_⟩
    · rw [List.mem_range, size]
      omega
    · change t.first + ((n - t.first).toNat : Int) = n
      omega

/-- The lines of a span ascend. -/
theorem pairwise_lines (t : Span) : t.lines.Pairwise (· < ·) := by
  rw [lines_eq, List.pairwise_map]
  apply List.pairwise_lt_range.imp
  intro i j hij
  change t.first + (i : Int) < t.first + (j : Int)
  omega

private theorem length_lines (t : Span) : t.lines.length = t.size.toNat := by
  rw [lines_eq, List.length_map, List.length_range]

end Span

namespace LineSet

/-- The list holds the members and nothing else. -/
theorem mem_toList (s : LineSet) (n : Int) : n ∈ s.toList ↔ n ∈ s := by
  change n ∈ s.spans.flatMap Span.lines ↔ _
  simp only [List.mem_flatMap, Span.mem_lines, mem_iff, Span.Cover]

/-- The members of a canonical set are listed in ascending order, each once. -/
theorem Canonical.pairwise_toList (s : LineSet) (h : s.Canonical) :
    s.toList.Pairwise (· < ·) := by
  change (s.spans.flatMap Span.lines).Pairwise (· < ·)
  rw [List.pairwise_flatMap]
  refine ⟨fun t _ => t.pairwise_lines, ?_⟩
  apply h.2.imp
  intro t u hgap m hm n hn
  have hlast := ((t.mem_lines m).mp hm).2
  have hfirst := ((u.mem_lines n).mp hn).1
  omega

/-- The sizes of the spans of a canonical set sum up to the number of its members. -/
theorem Canonical.count_eq (s : LineSet) (h : s.Canonical) : s.count = s.toList.length := by
  obtain ⟨spans⟩ := s
  induction spans with
  | nil => rfl
  | cons t rest ih =>
    obtain ⟨ht, -, hrest⟩ := (canonical_cons t rest).mp h
    have hlines : t.size = t.lines.length := by
      rw [t.length_lines, Span.size]
      omega
    change t.size + count ⟨rest⟩ = ((t.lines ++ toList ⟨rest⟩).length : Int)
    rw [ih hrest, hlines, List.length_append, Int.natCast_add]

private theorem take_go (limit : Nat) (spans : List Span) :
    take.go limit spans = (spans.flatMap Span.lines).take limit := by
  induction spans generalizing limit with
  | nil => rw [take.go, List.flatMap_nil, List.take_nil]
  | cons t rest ih =>
    have hleft : limit - (t.lines.take limit).length = limit - t.lines.length := by
      rw [List.length_take]
      omega
    rw [take.go, ih, t.take_eq, hleft, List.flatMap_cons, List.take_append]

/-- Taking some members gives the first ones of the list. -/
theorem take_eq (limit : Nat) (s : LineSet) : s.take limit = s.toList.take limit :=
  take_go limit s.spans

/-- A canonical set has a member unless it has no spans. -/
theorem Canonical.isEmpty_eq_false_iff (s : LineSet) (h : s.Canonical) :
    s.isEmpty = false ↔ ∃ n, n ∈ s := by
  simp only [mem_iff]
  rw [isEmpty, List.isEmpty_eq_false_iff_exists_mem]
  constructor
  · rintro ⟨t, ht⟩
    exact ⟨t.first, t, ht, Int.le_refl _, h.1 t ht⟩
  · rintro ⟨n, t, ht, -⟩
    exact ⟨t, ht⟩

/-- What a set of pairs says of itself agrees with the list of its members: the list holds the
enclosed lines in ascending order, membership is occurrence in the list, the first members are
those of the list, the sum of the sizes of the spans is the length of the list, and the size is that
length unless it is too large to be reported. Whether the set is empty is answered for every size:
it is when the list is. -/
theorem ofPairs_views (pairs : List (Int × Int)) :
    (∀ n, n ∈ (ofPairs pairs).toList ↔ Enclosed pairs n) ∧
      (ofPairs pairs).toList.Pairwise (· < ·) ∧
      (∀ n, (ofPairs pairs).contains n = true ↔ n ∈ (ofPairs pairs).toList) ∧
      (∀ limit, (ofPairs pairs).take limit = (ofPairs pairs).toList.take limit) ∧
      (ofPairs pairs).count = (ofPairs pairs).toList.length ∧
      (ofPairs pairs).size = (if (ofPairs pairs).toList.length ≤ Nat.pow 2 63 - 1 then
        .ok ((ofPairs pairs).toList.length : Int) else .error .tooLarge) ∧
      ((ofPairs pairs).isEmpty = false ↔ ∃ n, n ∈ (ofPairs pairs).toList) := by
  have h := canonical_ofPairs pairs
  refine ⟨?_, h.pairwise_toList, fun n => (mem_toList _ n).symm, fun limit => take_eq limit _,
    h.count_eq, ?_, ?_⟩
  · intro n
    rw [mem_toList, mem_ofPairs]
  · have hlimit : ((ofPairs pairs).toList.length : Int) ≤ sizeLimit ↔
        (ofPairs pairs).toList.length ≤ Nat.pow 2 63 - 1 := by
      have hpow : Nat.pow 2 63 = 9223372036854775808 := rfl
      rw [sizeLimit]
      omega
    rw [size, h.count_eq]
    simp only [hlimit]
  · rw [h.isEmpty_eq_false_iff]
    simp only [mem_toList]

end LineSet

end CodeHighlight
