import CodeHighlight.Fault
import Mathlib.Logic.Relation

/-!
# Following origins

The links of a store of faults may form cycles. Following them from a place visits every place that
the links lead to, and none twice. A place that is visited beforehand cuts the way off in front of
it and changes nothing else; a way that returns to the place in front of its beginning ends there.
-/

namespace CodeHighlight.Failure

/-- In a store, the fault at the first place names the second one as its origin. -/
def ArisesFrom (faults : List Fault) (place origin : Nat) : Prop :=
  origin < faults.length ∧ (faults[place]?).bind Fault.origin = some origin

variable (faults : List Fault)

/-- Without a place there is nothing to follow. -/
@[simp]
theorem follow_none (visited : List Nat) : follow faults visited none = [] := by rw [follow]

/-- A place in the store that is not visited yet is visited, and then its origin. -/
theorem follow_of_unvisited (visited : List Nat) (place : Nat) (h : place < faults.length)
    (hv : place ∉ visited) : follow faults visited (some place) =
      place :: follow faults (place :: visited) ((faults[place]?).bind Fault.origin) := by
  rw [follow, dif_pos ⟨h, hv⟩, List.getElem?_eq_getElem h, Option.bind_some]

/-- A way ends at a visited place. -/
theorem follow_of_visited (visited : List Nat) (place : Nat) (hv : place ∈ visited) :
    follow faults visited (some place) = [] := by
  rw [follow, dif_neg fun h => h.2 hv]

/-- A way ends where a link leads out of the store. -/
theorem follow_of_length_le (visited : List Nat) (place : Nat) (h : faults.length ≤ place) :
    follow faults visited (some place) = [] := by
  rw [follow, dif_neg fun hp => Nat.not_lt.mpr h hp.1]

/-- A way is nothing, or it begins with a place that is not visited. -/
@[elab_as_elim]
theorem follow_induction {motive : List Nat → Option Nat → Prop}
    (ends : ∀ visited place?, follow faults visited place? = [] → motive visited place?)
    (visits : ∀ visited place, place < faults.length → place ∉ visited →
      motive (place :: visited) ((faults[place]?).bind Fault.origin) →
      motive visited (some place))
    (visited : List Nat) (place? : Option Nat) : motive visited place? := by
  fun_induction follow faults visited place? with
  | case1 visited => exact ends visited none (follow_none faults visited)
  | case2 visited place h ih =>
    refine visits visited place h.1 h.2 ?_
    rwa [List.getElem?_eq_getElem h.1, Option.bind_some]
  | case3 visited place h =>
    apply ends
    rw [follow, dif_neg h]

/-- It does not matter in which order places were visited. -/
theorem follow_congr (visited visited' : List Nat) (place? : Option Nat)
    (h : ∀ q, q ∈ visited ↔ q ∈ visited') :
    follow faults visited place? = follow faults visited' place? := by
  fun_induction follow faults visited place? generalizing visited' with
  | case1 => rw [follow_none]
  | case2 visited place hp ih =>
    rw [follow, dif_pos ⟨hp.1, fun hv => hp.2 ((h place).mpr hv)⟩, ih (place :: visited')]
    intro q
    rw [List.mem_cons, List.mem_cons, h]
  | case3 visited place hp =>
    rw [follow, dif_neg]
    rwa [← h]

/-- The places on a way are in the store and were not visited before. -/
theorem of_mem_follow (visited : List Nat) (place? : Option Nat) (q : Nat)
    (hq : q ∈ follow faults visited place?) : q < faults.length ∧ q ∉ visited := by
  induction visited, place? using follow_induction faults with
  | ends visited place? hend =>
    rw [hend] at hq
    cases hq
  | visits visited place hplace hv ih =>
    rw [follow_of_unvisited faults visited place hplace hv] at hq
    rcases List.mem_cons.mp hq with rfl | hq
    · exact ⟨hplace, hv⟩
    · exact ⟨(ih hq).1, fun hmem => (ih hq).2 (List.mem_cons_of_mem _ hmem)⟩

/-- No place is visited twice. -/
theorem nodup_follow (visited : List Nat) (place? : Option Nat) :
    (follow faults visited place?).Nodup := by
  induction visited, place? using follow_induction faults with
  | ends visited place? hend =>
    rw [hend]
    exact List.nodup_nil
  | visits visited place hplace hv ih =>
    rw [follow_of_unvisited faults visited place hplace hv]
    refine List.nodup_cons.mpr ⟨fun hmem => ?_, ih⟩
    exact (of_mem_follow faults _ _ place hmem).2 List.mem_cons_self

/-- The links lead from the beginning of a way to every place on it. -/
theorem exists_of_mem_follow (visited : List Nat) (place? : Option Nat) (q : Nat)
    (hq : q ∈ follow faults visited place?) : ∃ place, place? = some place ∧
      place < faults.length ∧ Relation.ReflTransGen (ArisesFrom faults) place q := by
  induction visited, place? using follow_induction faults with
  | ends visited place? hend =>
    rw [hend] at hq
    cases hq
  | visits visited place hplace hv ih =>
    refine ⟨place, rfl, hplace, ?_⟩
    rw [follow_of_unvisited faults visited place hplace hv] at hq
    rcases List.mem_cons.mp hq with rfl | hq
    · exact .refl
    · obtain ⟨origin, horigin, hin, hreach⟩ := ih hq
      exact .head ⟨hin, horigin⟩ hreach

/-- A way goes on from every place on it, unless the origin was visited before. -/
theorem mem_follow_of_arisesFrom (visited : List Nat) (place? : Option Nat) (q origin : Nat)
    (hq : q ∈ follow faults visited place?) (h : ArisesFrom faults q origin) :
    origin ∈ visited ∨ origin ∈ follow faults visited place? := by
  induction visited, place? using follow_induction faults with
  | ends visited place? hend =>
    rw [hend] at hq
    cases hq
  | visits visited place hplace hv ih =>
    rw [follow_of_unvisited faults visited place hplace hv] at hq ⊢
    have hnext : origin ∈ place :: visited ∨ origin ∈ follow faults (place :: visited)
        ((faults[place]?).bind Fault.origin) := by
      rcases List.mem_cons.mp hq with rfl | hq
      · by_cases hnew : origin ∈ q :: visited
        · exact .inl hnew
        · rw [h.2, follow_of_unvisited faults _ origin h.1 hnew]
          exact .inr List.mem_cons_self
      · exact ih hq
    rcases hnext with hold | hmore
    · rcases List.mem_cons.mp hold with rfl | hold
      · exact .inr List.mem_cons_self
      · exact .inl hold
    · exact .inr (List.mem_cons_of_mem _ hmore)

/-- A way from a place in the store visits the places that the links lead to, and no others. -/
theorem mem_follow_iff (place q : Nat) (h : place < faults.length) :
    q ∈ follow faults [] (some place) ↔ Relation.ReflTransGen (ArisesFrom faults) place q := by
  constructor
  · intro hq
    obtain ⟨first, hfirst, -, hreach⟩ := exists_of_mem_follow faults [] (some place) q hq
    rwa [Option.some.inj hfirst]
  intro hreach
  induction hreach with
  | refl =>
    rw [follow_of_unvisited faults [] place h List.not_mem_nil]
    exact List.mem_cons_self
  | tail _ harises ih =>
    exact (mem_follow_of_arisesFrom faults [] (some place) _ _ ih harises).resolve_left
      List.not_mem_nil

/-- A place that is visited beforehand cuts a way off in front of it. -/
theorem follow_cons (visited : List Nat) (place? : Option Nat) (r : Nat) :
    follow faults (r :: visited) place? = (follow faults visited place?).takeWhile (· ≠ r) := by
  induction visited, place? using follow_induction faults with
  | ends visited place? hend =>
    rw [hend, List.takeWhile_nil]
    cases place? with
    | none => exact follow_none faults _
    | some place =>
      rw [follow] at hend ⊢
      split at hend
      · cases hend
      · next h => exact dif_neg fun hp => h ⟨hp.1, fun hv => hp.2 (List.mem_cons_of_mem _ hv)⟩
  | visits visited place hplace hv ih =>
    rw [follow_of_unvisited faults visited place hplace hv]
    by_cases hr : place = r
    · subst hr
      rw [follow_of_visited faults _ place List.mem_cons_self, List.takeWhile_cons]
      simp
    · have hnew : place ∉ r :: visited := by
        simp [hr, hv]
      rw [follow_of_unvisited faults _ place hplace hnew, List.takeWhile_cons, if_pos (by simpa),
        ← ih]
      congr 1
      apply follow_congr
      intro q
      simp only [List.mem_cons]
      exact or_left_comm

/-- A way that comes to a place ends there if the place's origin is its beginning, or was visited
before. -/
theorem dropWhile_follow (visited : List Nat) (place? : Option Nat) (r origin : Nat)
    (horigin : (faults[r]?).bind Fault.origin = some origin)
    (hbegin : origin ∈ visited ∨ place? = some origin) (hr : r ∈ follow faults visited place?) :
    (follow faults visited place?).dropWhile (· ≠ r) = [r] := by
  induction visited, place? using follow_induction faults with
  | ends visited place? hend =>
    rw [hend] at hr
    cases hr
  | visits visited place hplace hv ih =>
    have hvisited : origin ∈ place :: visited := by
      rcases hbegin with hold | hbegin
      · exact List.mem_cons_of_mem _ hold
      · rw [Option.some.inj hbegin]
        exact List.mem_cons_self
    rw [follow_of_unvisited faults visited place hplace hv] at hr ⊢
    by_cases hp : place = r
    · subst hp
      rw [horigin, follow_of_visited faults _ origin hvisited, List.dropWhile_cons]
      simp
    · have hrest := List.mem_of_ne_of_mem (fun h => hp h.symm) hr
      rw [List.dropWhile_cons, if_pos (by simpa)]
      exact ih (.inl hvisited) hrest

end CodeHighlight.Failure
