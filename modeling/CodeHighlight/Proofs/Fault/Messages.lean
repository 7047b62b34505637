import CodeHighlight.Proofs.Fault.Origins
import CodeHighlight.Proofs.Loop
import CodeHighlight.Proofs.Text.FirstLine

/-!
# The messages of a failure

The messages are collected in a loop that goes from each fault to its origin and marks what it has
visited. Each round leaves one place less on the way, so the loop ends whatever the links are; it
has then visited the places that repeated origins lead to, in this order, up to the first one that
comes again. A message gives its first line that holds more than blanks, or nothing.
-/

namespace CodeHighlight.Failure

/-! ## Repeated origins -/

section Places

variable (faults : List Fault)

end Places

/-! ## The loop -/

/-- The state of the loop that collects messages: the place to go on from, the places visited, the
last one first, and the messages so far. -/
structure Collecting where
  current : Option Nat
  visited : List Nat := []
  messages : List String := []

/-- A round of the loop: a fault that was not visited yet adds the first line of its message, and
its origin comes next. -/
def collect? (faults : List Fault) (c : Collecting) : Option Collecting :=
  match c.current with
  | none => none
  | some place =>
    match faults[place]? with
    | none => none
    | some fault =>
      if place ∈ c.visited then none
      else some {
        current := fault.origin
        visited := place :: c.visited
        messages := c.messages ++ (firstLine? fault.message).toList }

/-- The messages at places of a store. -/
def messagesAt (faults : List Fault) (places : List Nat) : List String :=
  (places.filterMap (faults[·]?)).filterMap fun fault => firstLine? fault.message

/-- What rounds keep: the places visited and those still on the way are the chain, and so it is with
the messages. -/
structure OnTheChain (f : Failure) (c : Collecting) : Prop where
  places : c.visited.reverse ++ follow f.faults c.visited c.current = f.chainPlaces
  messages : c.messages ++ messagesAt f.faults (follow f.faults c.visited c.current) = f.messages

private theorem collect?_eq_some (faults : List Fault) (c c' : Collecting)
    (h : collect? faults c = some c') : ∃ place fault, c.current = some place ∧
      faults[place]? = some fault ∧ place ∉ c.visited ∧
      c' = ⟨fault.origin, place :: c.visited,
        c.messages ++ (firstLine? fault.message).toList⟩ := by
  obtain ⟨current, visited, messages⟩ := c
  cases current with
  | none => cases h
  | some place =>
    cases hfault : faults[place]? with
    | none => simp [collect?, hfault] at h
    | some fault =>
      simp only [collect?, hfault] at h
      split at h
      · cases h
      · next hv => exact ⟨place, fault, rfl, hfault, hv, (Option.some.inj h).symm⟩

/-- A round keeps the chain together, and one place less is left on the way. -/
theorem OnTheChain.round (f : Failure) (c c' : Collecting) (hc : f.OnTheChain c)
    (h : collect? f.faults c = some c') : f.OnTheChain c' ∧
      (follow f.faults c'.visited c'.current).length <
        (follow f.faults c.visited c.current).length := by
  obtain ⟨place, fault, hcurrent, hfault, hv, rfl⟩ := collect?_eq_some f.faults c c' h
  obtain ⟨hplace, -⟩ := List.getElem?_eq_some_iff.mp hfault
  have hfollow : follow f.faults c.visited c.current =
      place :: follow f.faults (place :: c.visited) fault.origin := by
    rw [hcurrent, follow_of_unvisited f.faults c.visited place hplace hv, hfault, Option.bind_some]
  have hmessages : messagesAt f.faults (follow f.faults c.visited c.current) =
      (firstLine? fault.message).toList ++
        messagesAt f.faults (follow f.faults (place :: c.visited) fault.origin) := by
    rw [hfollow, messagesAt, List.filterMap_cons_some hfault, List.filterMap_cons]
    cases firstLine? fault.message <;> rfl
  refine ⟨⟨?_, ?_⟩, ?_⟩
  · rw [← hc.places, hfollow, List.reverse_cons, List.append_assoc]
    rfl
  · rw [← hc.messages, hmessages, List.append_assoc]
  · rw [hfollow, List.length_cons]
    exact Nat.lt_succ_self _

/-- A failure whose cause says nothing and arose while the failure itself was handled. -/
example : messages ⟨[
    ⟨.render, "\n  bad \u2028 more", some 1, none⟩,
    ⟨.badValue, " \n\t", none, some 0⟩], 0⟩ = ["bad"] := by
  cbv

end CodeHighlight.Failure
