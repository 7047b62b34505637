/-!
# Loops

A loop takes rounds from a state for as long as there is one to take. It ends if something gets less
in every round; what every round keeps then holds of the last state.
-/

namespace CodeHighlight

variable {σ : Type} (round? : σ → Option σ)

/-- Rounds taken from the first state end in the second one, from which none can be taken. -/
inductive EndsIn : σ → σ → Prop where
  | stop (s : σ) (h : round? s = none) : EndsIn s s
  | round (s t last : σ) (h : round? s = some t) (rest : EndsIn t last) : EndsIn s last

/-- No round can be taken from the last state. -/
theorem EndsIn.round_last (s last : σ) (h : EndsIn round? s last) : round? last = none := by
  induction h with
  | stop _ h => exact h
  | round _ _ _ _ _ ih => exact ih

/-- A loop ends in one state only. -/
theorem EndsIn.unique (s last last' : σ) (h : EndsIn round? s last) (h' : EndsIn round? s last') :
    last' = last := by
  induction h with
  | stop s hs =>
    cases h' with
    | stop => rfl
    | round _ t _ ht => exact absurd ht (by simp [hs])
  | round s t last ht _ ih =>
    cases h' with
    | stop _ hs => exact absurd ht (by simp [hs])
    | round _ u _ hu hrest =>
      rw [ht, Option.some.injEq] at hu
      exact ih (hu ▸ hrest)

/-- A loop in whose rounds something gets less ends, and what its rounds keep holds at the end. -/
theorem exists_endsIn (keeps : σ → Prop) (left : σ → Nat)
    (step : ∀ s t, keeps s → round? s = some t → keeps t ∧ left t < left s) (s : σ)
    (hs : keeps s) : ∃ last, EndsIn round? s last ∧ keeps last := by
  induction hleft : left s using Nat.strongRecOn generalizing s with
  | ind n ih =>
    cases hround : round? s with
    | none => exact ⟨s, .stop s hround, hs⟩
    | some t =>
      obtain ⟨ht, hlt⟩ := step s t hs hround
      obtain ⟨last, hlast, hkeeps⟩ := ih (left t) (hleft ▸ hlt) t ht rfl
      exact ⟨last, .round s t last hround hlast, hkeeps⟩

end CodeHighlight
