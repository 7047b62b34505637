import CodeHighlight.Yaml.Fault

/-!
# What a reading keeps

A reading with a state may fail. It keeps a property of states if it never leaves a state without
it, and if it fails with certain faults only.
-/

namespace CodeHighlight.Yaml

/-- From a state with a property a reading comes to a state with it, or to an allowed fault. -/
def Keeps {σ α : Type} (inv : σ → Prop) (allowed : Fault → Prop)
    (m : StateT σ (Except Fault) α) : Prop :=
  ∀ s, inv s → match m.run s with
    | .ok (_, s') => inv s'
    | .error fault => allowed fault

namespace Keeps

variable {σ α β : Type} {inv : σ → Prop} {allowed : Fault → Prop}

theorem pure (a : α) : Keeps inv allowed (Pure.pure a : StateT σ (Except Fault) α) :=
  fun _ hs => hs

theorem throw (fault : Fault) (h : allowed fault) :
    Keeps inv allowed (MonadExcept.throw fault : StateT σ (Except Fault) α) :=
  fun _ _ => h

theorem get : Keeps inv allowed (MonadState.get : StateT σ (Except Fault) σ) :=
  fun _ hs => hs

theorem set (s : σ) (h : inv s) :
    Keeps inv allowed (MonadStateOf.set s : StateT σ (Except Fault) PUnit) :=
  fun _ _ => h

theorem modify (f : σ → σ) (h : ∀ s, inv s → inv (f s)) :
    Keeps inv allowed (modify f : StateT σ (Except Fault) PUnit) :=
  fun s hs => h s hs

/-- One reading after the other. -/
theorem bind {m : StateT σ (Except Fault) α} {k : α → StateT σ (Except Fault) β}
    (hm : Keeps inv allowed m) (hk : ∀ a, Keeps inv allowed (k a)) :
    Keeps inv allowed (m >>= k) := by
  intro s hs
  have hfirst := hm s hs
  rw [StateT.run_bind]
  cases hrun : m.run s with
  | error fault =>
    rw [hrun] at hfirst
    exact hfirst
  | ok result =>
    rw [hrun] at hfirst
    exact hk result.1 result.2 hfirst

theorem map {m : StateT σ (Except Fault) α} (hm : Keeps inv allowed m) (f : α → β) :
    Keeps inv allowed (f <$> m) := by
  rw [← bind_pure_comp]
  exact hm.bind fun a => .pure (f a)

/-- What is read behind a look at the state may use that the state has the property. -/
theorem get_bind {k : σ → StateT σ (Except Fault) β}
    (hk : ∀ s, inv s → Keeps inv allowed (k s)) : Keeps inv allowed (MonadState.get >>= k) :=
  fun s hs => hk s hs s hs

/-- What is read behind a result may use that it is this result; it may also fail with its fault. -/
theorem lift_bind {result : Except Fault α} {k : α → StateT σ (Except Fault) β}
    (hok : ∀ a, result = .ok a → Keeps inv allowed (k a))
    (herror : ∀ fault, result = .error fault → allowed fault) :
    Keeps inv allowed (liftM result >>= k) := by
  intro s hs
  cases result with
  | ok a => exact hok a rfl s hs
  | error fault => exact herror fault rfl

/-- A choice between two readings. -/
theorem ite {c : Prop} [Decidable c] {m n : StateT σ (Except Fault) α}
    (hm : Keeps inv allowed m) (hn : Keeps inv allowed n) :
    Keeps inv allowed (if c then m else n) := by
  split
  · exact hm
  · exact hn

/-- A reading of each member of a list. -/
theorem mapM (f : α → StateT σ (Except Fault) β) (members : List α)
    (h : ∀ a, Keeps inv allowed (f a)) : Keeps inv allowed (members.mapM f) := by
  induction members with
  | nil =>
    rw [List.mapM_nil]
    exact .pure []
  | cons first rest ih =>
    rw [List.mapM_cons]
    exact (h first).bind fun _ => ih.bind fun _ => .pure _

/-- A reading of a list, member by member. -/
theorem foldlM (f : β → α → StateT σ (Except Fault) β) (members : List α)
    (h : ∀ b a, Keeps inv allowed (f b a)) (start : β) :
    Keeps inv allowed (members.foldlM f start) := by
  induction members generalizing start with
  | nil => exact .pure start
  | cons first rest ih =>
    rw [List.foldlM_cons]
    exact (h start first).bind ih

end Keeps

end CodeHighlight.Yaml
