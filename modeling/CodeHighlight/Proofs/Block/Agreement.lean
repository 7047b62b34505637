import CodeHighlight.Proofs.Block.Bundle
import CodeHighlight.Proofs.Block.Script
import CodeHighlight.Proofs.Block.Style
import Mathlib.Data.List.Nodup

/-!
# Style sheet and script agree

The script registers ranges by name and the style sheet has rules by name. Both are made from the
same groups of ranges and leave out the keys that the theme does not colour, so that the names are
the same, in the same order, and each of them once.
-/

namespace CodeHighlight

namespace TokenKind

/-- The key of a kind is one of the table. -/
theorem exists_of_key? (kind : TokenKind) (key : String) (h : kind.key? = some key) :
    ∃ p ∈ keys, p.2 = key := by
  have hown (k : TokenKind) (h : k.ownKey? = some key) : ∃ p ∈ keys, p.2 = key := by
    obtain ⟨front, back, hkeys, -⟩ := List.lookup_eq_some_iff.mp h
    refine ⟨(k, key), ?_, rfl⟩
    rw [hkeys]
    exact List.mem_append_right _ List.mem_cons_self
  have hwithin (steps : Nat) (k : TokenKind) (h : keyWithin? steps k = some key) :
      ∃ p ∈ keys, p.2 = key := by
    induction steps generalizing k with
    | zero => exact hown k h
    | succ steps ih =>
      rw [keyWithin?, Option.or_eq_some_iff] at h
      rcases h with h | ⟨-, h⟩
      · exact hown k h
      · exact ih _ h
  exact hwithin kind.length kind h

/-- No key holds a closing parenthesis. -/
theorem not_mem_of_key? (kind : TokenKind) (key : String) (h : kind.key? = some key) :
    ')' ∉ key.toList := by
  have hkeys : ∀ p ∈ keys, ')' ∉ p.2.toList := by decide +kernel
  obtain ⟨p, hp, rfl⟩ := exists_of_key? kind key h
  exact hkeys p hp

end TokenKind

namespace Block

/-- The names in the script are those of the coloured keys, in their order. -/
theorem map_fst_rangesMembers (theme : Theme) (label : String) (ranges : RangeGroups) :
    (rangesMembers theme label ranges).map Prod.fst =
      (styledKeys theme ranges.keys).map (rangeName label) := by
  rw [rangesMembers, styledKeys, RangeGroups.keys, List.filter_map, List.map_map, List.map_map]
  rfl

/-- Different keys have different names. -/
theorem rangeName_injective (label : String) : Function.Injective (rangeName label) := by
  intro first second h
  have hchars := String.toList_inj.mpr h
  simp only [rangeName, String.toList_append] at hchars
  exact String.toList_inj.mp (List.append_cancel_left hchars)

end Block

namespace Bundle

end Bundle

end CodeHighlight
