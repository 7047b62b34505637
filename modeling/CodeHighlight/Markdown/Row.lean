import CodeHighlight.Markdown.Token

/-!
# The parts of a row of tokens

A row of tokens falls into parts: each ends with the first token behind which the row is no deeper
than before it. A token that opens nothing is a part of its own.
-/

namespace CodeHighlight.Markdown.Token

/-- The first part of a row, and what follows it; the row is `depth` deep already. -/
def part? (depth : Int) : List Token → Option (List Token × List Token)
  | [] => none
  | token :: rest =>
    if depth + token.nesting.step ≤ 0 then some ([token], rest)
    else (part? (depth + token.nesting.step) rest).map fun (part, after) => (token :: part, after)

/-- The parts make up the row, and none of them is empty. -/
theorem eq_of_part? {depth : Int} {row part after : List Token}
    (h : part? depth row = some (part, after)) : row = part ++ after ∧ part ≠ [] := by
  fun_induction part? depth row generalizing part after with
  | case1 => cases h
  | case2 =>
    cases h
    exact ⟨rfl, List.cons_ne_nil _ _⟩
  | case3 depth token rest _ ih =>
    obtain ⟨⟨rest', after'⟩, hrest, heq⟩ := Option.map_eq_some_iff.mp h
    cases heq
    exact ⟨congrArg (token :: ·) (ih hrest).1, List.cons_ne_nil _ _⟩

/-- What a part encloses and what follows it is shorter than the row. -/
theorem length_part? {depth : Int} {row part after : List Token}
    (h : part? depth row = some (part, after)) :
    part.tail.dropLast.length < row.length ∧ after.length < row.length := by
  obtain ⟨rfl, hne⟩ := eq_of_part? h
  have hpart := List.length_pos_iff.mpr hne
  simp only [List.length_dropLast, List.length_tail, List.length_append]
  omega

end CodeHighlight.Markdown.Token
