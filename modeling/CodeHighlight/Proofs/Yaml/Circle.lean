import CodeHighlight.Yaml.Value.Reader
import Mathlib.Data.Fintype.Pigeonhole

/-!
# Keys that lead round

A mapping stands for the value of its first `=` key, which may be a mapping again. A way along such
keys that is longer than there are nodes comes to one of them twice, so it has no end.
-/

namespace CodeHighlight.Yaml

namespace Nodes

/-- The node that a mapping stands for. -/
def standsFor? (nodes : Nodes) (number : Nat) : Option Nat :=
  ((nodes.pairs number).find? fun entry => nodes.tag? entry.1 = some .value).map Prod.snd

/-- The node so many keys on. -/
def along (nodes : Nodes) : Nat → Nat → Option Nat
  | 0, number => some number
  | steps + 1, number => (nodes.standsFor? number).bind (nodes.along steps)

variable (nodes : Nodes)

/-- Only nodes that there are stand for others. -/
theorem lt_size_of_standsFor? (number : Nat) (h : (nodes.standsFor? number).isSome) :
    number < nodes.size := by
  by_contra hge
  have hcontent : nodes.content? number = none := by
    rw [content?, Array.getElem?_eq_none (Nat.le_of_not_lt hge)]
    rfl
  rw [standsFor?, pairs, hcontent] at h
  cases h

theorem along_add (steps more number : Nat) :
    nodes.along (steps + more) number = (nodes.along steps number).bind (nodes.along more) := by
  induction steps generalizing number with
  | zero =>
    rw [Nat.zero_add]
    rfl
  | succ steps ih =>
    rw [Nat.succ_add, along, along, Option.bind_assoc]
    exact congrArg _ (funext ih)

theorem isSome_along_of_le (steps fewer number : Nat) (hle : fewer ≤ steps)
    (h : (nodes.along steps number).isSome) : (nodes.along fewer number).isSome := by
  rw [← Nat.add_sub_cancel' hle, along_add] at h
  exact Option.isSome_of_isSome_bind h

/-- A way that comes back to its first node has no end. -/
theorem isSome_along_of_circle (round number : Nat) (hround : 0 < round)
    (h : nodes.along round number = some number) (steps : Nat) :
    (nodes.along steps number).isSome := by
  have hrounds (rounds : Nat) : nodes.along (round * rounds) number = some number := by
    induction rounds with
    | zero => rfl
    | succ rounds ih =>
      rw [Nat.mul_succ, along_add, ih]
      exact h
  refine nodes.isSome_along_of_le (round * steps) steps number (Nat.le_mul_of_pos_left _ hround) ?_
  rw [hrounds]
  rfl

/-- A way of more keys than there are nodes comes to one node twice. -/
theorem exists_circle (number : Nat) (h : (nodes.along (nodes.size + 1) number).isSome) :
    ∃ start round node, 0 < round ∧ nodes.along start number = some node ∧
      nodes.along round node = some node := by
  have hway (i : Fin (nodes.size + 1)) :
      ∃ node : Fin nodes.size, nodes.along i number = some node.val := by
    have hnext := nodes.isSome_along_of_le _ (i + 1) number (Nat.succ_le_of_lt i.isLt) h
    rw [along_add] at hnext
    obtain ⟨node, hnode⟩ := Option.isSome_iff_exists.mp (Option.isSome_of_isSome_bind hnext)
    rw [hnode] at hnext
    exact ⟨⟨node, nodes.lt_size_of_standsFor? node (Option.isSome_of_isSome_bind hnext)⟩, hnode⟩
  choose place hplace using hway
  obtain ⟨i, j, hne, hsame⟩ := Fintype.exists_ne_map_eq_of_card_lt place (by simp)
  wlog hlt : i < j generalizing i j
  · exact this j i hne.symm hsame.symm (lt_of_le_of_ne (not_lt.mp hlt) hne.symm)
  refine ⟨i, j - i, place i, Nat.sub_pos_of_lt hlt, hplace i, ?_⟩
  have hj := hplace j
  rwa [← Nat.add_sub_cancel' (Nat.le_of_lt hlt), along_add, hplace i, ← hsame] at hj

end Nodes

namespace ValueReader

variable (nodes : Nodes)

/-- Characters are sought on for as long as keys lead to another node. -/
theorem characters_eq_endless_iff (fuel number : Nat) :
    characters nodes fuel number = .error .endless ↔ (nodes.along fuel number).isSome := by
  induction fuel generalizing number with
  | zero => exact iff_of_true rfl rfl
  | succ fuel ih =>
    rw [characters, Nodes.along, Nodes.standsFor?, Nodes.pairs]
    match nodes.content? number with
    | none | some (.scalar _) | some (.sequence _) => exact iff_of_false nofun nofun
    | some (.mapping pairs) =>
      dsimp only
      cases pairs.find? fun entry => nodes.tag? entry.1 = some .value with
      | none => exact iff_of_false nofun nofun
      | some entry => exact ih entry.2

/-- Characters that are not found within as many keys as there are nodes are never found. -/
theorem characters_endless (number : Nat)
    (h : characters nodes (nodes.size + 1) number = .error .endless) (fuel : Nat) :
    characters nodes fuel number = .error .endless := by
  rw [characters_eq_endless_iff] at h ⊢
  obtain ⟨start, round, node, hround, hstart, hcircle⟩ := nodes.exists_circle number h
  refine nodes.isSome_along_of_le (start + fuel) fuel number (Nat.le_add_left _ _) ?_
  rw [Nodes.along_add, hstart]
  exact nodes.isSome_along_of_circle round node hround hcircle fuel

end ValueReader

end CodeHighlight.Yaml
