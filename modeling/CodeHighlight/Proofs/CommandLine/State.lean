import CodeHighlight.Proofs.CommandLine.Context

/-!
# Calls for states

A call for the state of a context finds the nearest one of its lineage, attaches a fresh one to the
context itself, falls back on the remembered one, or is refused. A fresh state never comes between
a context and its nearest state: the context that it is attached to would have that state in its own
lineage. So a state once found for a context is the one that all later calls find.
-/

namespace CodeHighlight.CommandLine

/-- A call for a state. It concerns the context that is given, or else the one that is active. -/
inductive StateCall where
  /-- Asks for the state; one may be made if there is none. -/
  | get (given active : Option ContextId) (create : Bool)
  /-- Changes the state, which is made if there is none. -/
  | set (given active : Option ContextId) (verbosity : Option Int) (tracebacks : Option Bool)

namespace StateCall

/-- The context that the call concerns. -/
def context : StateCall → Option ContextId
  | get given active _ => given.or active
  | set given active _ _ => given.or active

/-- Whether a state may be made. -/
def creates : StateCall → Bool
  | get _ _ create => create
  | set .. => true

/-- What the call makes of the state that it finds. -/
def change : StateCall → ReportState → ReportState
  | get .. => id
  | set _ _ verbosity tracebacks => fun state => Contexts.updated state verbosity tracebacks

/-- The context that the call concerns has been opened. -/
def IsKnown (call : StateCall) (c : Contexts) : Prop :=
  ∀ id, call.context = some id → id < c.contexts.length

end StateCall

namespace Contexts

/-- Makes a call. -/
def answer (c : Contexts) : StateCall → Contexts × Except StateMissing StateId
  | .get given active create => c.get (given.or active) create
  | .set given active verbosity tracebacks => c.set (given.or active) verbosity tracebacks

/-- Makes calls one after the other. -/
def after (c : Contexts) (calls : List StateCall) : Contexts :=
  calls.foldl (fun c call => (c.answer call).1) c

/-- Changes a state. -/
def changeState (c : Contexts) (s : StateId) (f : ReportState → ReportState) : Contexts :=
  { c with states := c.states.modify s f }

/-! ## What a call does -/

/-- The contexts with a fresh state that is remembered. -/
def withFresh (c : Contexts) : Contexts := c.addState.1.remember c.states.length

/-- What a call leaves, and what it answers. -/
inductive Outcome (c : Contexts) (call : StateCall) :
    Contexts × Except StateMissing StateId → Prop where
  /-- The lineage of the context carries a state. -/
  | found (id : ContextId) (s : StateId) (hcall : call.context = some id)
      (hs : c.nearest? id = some s) :
      Outcome c call ((c.remember s).changeState s call.change, .ok s)
  /-- It carries none, and a fresh one is attached to the context. -/
  | attached (id : ContextId) (hcall : call.context = some id) (hs : c.nearest? id = none)
      (hcreates : call.creates = true) :
      Outcome c call ((c.withFresh.attach id c.states.length).changeState c.states.length
        call.change, .ok c.states.length)
  /-- No context counts, and a state is remembered. -/
  | recalled (s : StateId)
      (hcall : ∀ id, call.context = some id → c.nearest? id = none ∧ call.creates = false)
      (hs : c.remembered = some s) : Outcome c call (c.changeState s call.change, .ok s)
  /-- There is no context, none is remembered, and a fresh one is made. -/
  | made (hcall : call.context = none) (hs : c.remembered = none)
      (hcreates : call.creates = true) :
      Outcome c call (c.withFresh.changeState c.states.length call.change, .ok c.states.length)
  /-- No state is at hand, and none may be made. -/
  | refused (hcall : ∀ id, call.context = some id → c.nearest? id = none)
      (hs : c.remembered = none) (hcreates : call.creates = false) (missing : StateMissing) :
      Outcome c call (c, .error missing)

/-- A call asks for a state and changes the one that it gets. -/
theorem answer_eq (c : Contexts) (call : StateCall) : c.answer call =
    match c.get call.context call.creates with
    | (c, .ok s) => (c.changeState s call.change, .ok s)
    | (c, .error missing) => (c, .error missing) := by
  cases call with
  | get given active create =>
    rw [answer, StateCall.context, StateCall.creates]
    rcases c.get (given.or active) create with ⟨c', missing | s⟩
    · rfl
    · dsimp only [StateCall.change]
      rw [changeState, List.modify_id]
  | set given active verbosity tracebacks => rfl

/-- A call for a context with a near state answers that state. -/
theorem answer_of_nearest (c : Contexts) (call : StateCall) (id : ContextId) (s : StateId)
    (hcall : call.context = some id) (hs : c.nearest? id = some s) :
    c.answer call = ((c.remember s).changeState s call.change, .ok s) := by
  rw [answer_eq, hcall, get, hs]

/-- A call for a context without a near state attaches a fresh one to it, if one may be made. -/
theorem answer_of_bare (c : Contexts) (call : StateCall) (id : ContextId)
    (hcall : call.context = some id) (hs : c.nearest? id = none) (hcreates : call.creates = true) :
    c.answer call = ((c.withFresh.attach id c.states.length).changeState c.states.length
      call.change, .ok c.states.length) := by
  rw [answer_eq, hcall, get, hs, hcreates]
  rfl

/-- A call for no context, or one for which none is near and none may be made, falls back. -/
theorem answer_of_remembered (c : Contexts) (call : StateCall) (s : StateId)
    (hcall : ∀ id, call.context = some id → c.nearest? id = none ∧ call.creates = false)
    (hs : c.remembered = some s) : c.answer call = (c.changeState s call.change, .ok s) := by
  rw [answer_eq]
  cases hcontext : call.context with
  | none => rw [get, fallback, hs]
  | some id =>
    obtain ⟨hnearest, hcreates⟩ := hcall id hcontext
    rw [get, hnearest, hcreates, fallback, hs]
    rfl

/-- Every call has one of these outcomes. -/
theorem outcome_answer (c : Contexts) (call : StateCall) : c.Outcome call (c.answer call) := by
  cases hcall : call.context with
  | none =>
    cases hs : c.remembered with
    | some s =>
      rw [c.answer_of_remembered call s (by simp [hcall]) hs]
      exact .recalled s (by simp [hcall]) hs
    | none =>
      rw [answer_eq, hcall, get, fallback, hs]
      cases hcreates : call.creates with
      | true => exact .made hcall hs hcreates
      | false => exact .refused (by simp [hcall]) hs hcreates {}
  | some id =>
    cases hnearest : c.nearest? id with
    | some s =>
      rw [c.answer_of_nearest call id s hcall hnearest]
      exact .found id s hcall hnearest
    | none =>
      cases hcreates : call.creates with
      | true =>
        rw [c.answer_of_bare call id hcall hnearest hcreates]
        exact .attached id hcall hnearest hcreates
      | false =>
        cases hs : c.remembered with
        | some s =>
          rw [c.answer_of_remembered call s (by simp [hcall, hnearest, hcreates]) hs]
          exact .recalled s (by simp [hcall, hnearest, hcreates]) hs
        | none =>
          rw [answer_eq, hcall, get, hnearest, hcreates, fallback, hs]
          exact .refused (by simp [hcall, hnearest]) hs hcreates {}

/-- A call leaves the contexts as they are, or attaches a fresh state to its own. -/
theorem contexts_answer (c : Contexts) (call : StateCall) :
    (c.answer call).1.contexts = c.contexts ∨ ∃ id, call.context = some id ∧
      c.nearest? id = none ∧ (c.answer call).2 = .ok c.states.length ∧
      (c.answer call).1.contexts = (c.attach id c.states.length).contexts := by
  have h := c.outcome_answer call
  generalize c.answer call = result at h ⊢
  cases h with
  | attached id hcall hs => exact .inr ⟨id, hcall, hs, rfl, rfl⟩
  | _ => exact .inl rfl

/-- The state that a call answers is changed; it may be a fresh one behind all others. -/
theorem states_answer (c : Contexts) (call : StateCall) (s : StateId)
    (hs : (c.answer call).2 = .ok s) :
    (c.answer call).1.states = c.states.modify s call.change ∨ s = c.states.length ∧
      (c.answer call).1.states = (c.states ++ [({} : ReportState)]).modify s call.change := by
  have h := c.outcome_answer call
  generalize c.answer call = result at h hs ⊢
  cases h with
  | found | recalled =>
    cases hs
    exact .inl rfl
  | attached | made =>
    cases hs
    exact .inr ⟨rfl, rfl⟩
  | refused => cases hs

/-- A call that is refused changes nothing. -/
theorem fst_answer_of_error (c : Contexts) (call : StateCall) (missing : StateMissing)
    (hs : (c.answer call).2 = .error missing) : (c.answer call).1 = c := by
  have h := c.outcome_answer call
  generalize c.answer call = result at h hs ⊢
  cases h with
  | refused => rfl
  | found | recalled | attached | made => cases hs

/-- The remembered state is the one that was answered last. -/
theorem remembered_answer (c : Contexts) (call : StateCall) (s : StateId)
    (hs : (c.answer call).2 = .ok s) : (c.answer call).1.remembered = some s := by
  have h := c.outcome_answer call
  generalize c.answer call = result at h hs ⊢
  cases h with
  | recalled t hcall ht =>
    cases hs
    exact ht
  | found | attached | made =>
    cases hs
    rfl
  | refused => cases hs

/-- A call is refused if and only if no state may be made, none is near and none is remembered. -/
theorem answer_eq_error_iff (c : Contexts) (call : StateCall) :
    (∃ missing, (c.answer call).2 = .error missing) ↔ call.creates = false ∧
      (∀ id, call.context = some id → c.nearest? id = none) ∧ c.remembered = none := by
  have h := c.outcome_answer call
  generalize c.answer call = result at h ⊢
  constructor
  · rintro ⟨missing, hmissing⟩
    cases h with
    | refused hcall hs hcreates => exact ⟨hcreates, hcall, hs⟩
    | found | recalled | attached | made => cases hmissing
  · rintro ⟨hcreates, hcall, hs⟩
    cases h with
    | refused _ _ _ missing => exact ⟨missing, rfl⟩
    | found id s hid hfound => simp [hcall id hid] at hfound
    | recalled s _ hrecalled => simp [hs] at hrecalled
    | attached _ _ _ hmay => simp [hcreates] at hmay
    | made _ _ hmay => simp [hcreates] at hmay

/-! ## What calls keep -/

/-- What later contexts keep: lineages, states that are carried, and nearest states. -/
structure Continues (c c' : Contexts) : Prop where
  length : c'.contexts.length = c.contexts.length
  above : ∀ id, c'.above id = c.above id
  carried : ∀ id s, c.carried? id = some s → c'.carried? id = some s
  nearest : ∀ id s, c.nearest? id = some s → c'.nearest? id = some s

/-- Contexts keep all this of themselves. -/
theorem continues_refl (c : Contexts) : c.Continues c :=
  ⟨rfl, fun _ => rfl, fun _ _ h => h, fun _ _ h => h⟩

/-- What is kept twice is kept. -/
theorem Continues.trans (c c' c'' : Contexts) (h : c.Continues c') (h' : c'.Continues c'') :
    c.Continues c'' where
  length := h'.length.trans h.length
  above id := (h'.above id).trans (h.above id)
  carried id s hs := h'.carried id s (h.carried id s hs)
  nearest id s hs := h'.nearest id s (h.nearest id s hs)

/-- Lineages are kept. -/
theorem Continues.lineage (c c' : Contexts) (h : c.Continues c') (id : ContextId) :
    c'.lineage id = c.lineage id := by
  rw [lineage_eq, lineage_eq, h.above]

/-- A context that has been opened stays. -/
theorem Continues.isKnown (c c' : Contexts) (h : c.Continues c') (call : StateCall)
    (hcall : call.IsKnown c) : call.IsKnown c' := fun id hid => h.length ▸ hcall id hid

/-- A call keeps them: where a state is attached, none was carried. -/
theorem IsForest.continues_answer (c : Contexts) (h : c.IsForest) (call : StateCall)
    (hcall : call.IsKnown c) : c.Continues (c.answer call).1 := by
  rcases c.contexts_answer call with hsame | ⟨id, hid, hnone, -, hattach⟩
  · constructor
    · rw [hsame]
    · exact above_congr c _ hsame
    · intro x s hs
      rwa [carried?_congr c _ hsame]
    · intro x s hs
      rwa [nearest?_congr c _ hsame]
  · have hlt := hcall id hid
    constructor
    · rw [hattach, attach, List.length_modify]
    · intro x
      rw [above_congr _ _ hattach, above_attach]
    · intro x s hs
      rw [carried?_congr _ _ hattach, carried?_attach c id _ hlt, if_neg, hs]
      rintro rfl
      have hself := (c.nearest?_eq_none_iff x).mp hnone x List.mem_cons_self
      rw [hself] at hs
      cases hs
    · intro x s hs
      rw [nearest?_congr _ _ hattach]
      exact h.nearest?_attach c id _ hlt hnone x s hs

/-- Where a state is near or one may be made, the state that is answered is near from then on. -/
theorem IsForest.nearest?_of_answer (c : Contexts) (h : c.IsForest) (call : StateCall)
    (hcall : call.IsKnown c) (id : ContextId) (s : StateId) (hid : call.context = some id)
    (hchain : call.creates = true ∨ c.nearest? id ≠ none) (hs : (c.answer call).2 = .ok s) :
    (c.answer call).1.nearest? id = some s := by
  cases hnearest : c.nearest? id with
  | some t =>
    rw [c.answer_of_nearest call id t hid hnearest] at hs
    cases hs
    exact (h.continues_answer c call hcall).nearest id s hnearest
  | none =>
    have hcreates := hchain.resolve_right fun hne => hne hnearest
    have hanswer := c.answer_of_bare call id hid hnearest hcreates
    rw [hanswer] at hs ⊢
    cases hs
    have hcarried := carried?_attach c id c.states.length (hcall id hid) id
    rw [if_pos rfl] at hcarried
    exact (nearest?_eq_some_iff _ id _).mpr
      ⟨[], id, _, rfl, hcarried, fun x hx => absurd hx List.not_mem_nil⟩

/-- The state that is answered has been made. -/
theorem IsForest.lt_of_answer (c : Contexts) (h : c.IsForest) (call : StateCall) (s : StateId)
    (hs : (c.answer call).2 = .ok s) : s < (c.answer call).1.states.length := by
  have houtcome := c.outcome_answer call
  generalize c.answer call = result at houtcome hs ⊢
  have hfresh : c.states.length < (c.withFresh.changeState c.states.length
      call.change).states.length := by
    rw [changeState, List.length_modify, withFresh, remember, addState, List.length_append]
    exact Nat.lt_succ_self _
  cases houtcome with
  | found id t _ ht =>
    cases hs
    obtain ⟨_, k, _, _, hk, _⟩ := (c.nearest?_eq_some_iff id s).mp ht
    exact (List.length_modify ..).symm ▸ h.carried k s hk
  | recalled t _ ht =>
    cases hs
    exact (List.length_modify ..).symm ▸ h.remembered s ht
  | attached | made =>
    cases hs
    exact hfresh
  | refused => cases hs

/-- States do not disappear. -/
theorem length_states_le_answer (c : Contexts) (call : StateCall) :
    c.states.length ≤ (c.answer call).1.states.length := by
  cases hs : (c.answer call).2 with
  | error missing =>
    have hsame := c.fst_answer_of_error call missing hs
    exact Nat.le_of_eq (by rw [hsame])
  | ok s =>
    rcases c.states_answer call s hs with hstates | ⟨-, hstates⟩
    · exact Nat.le_of_eq (by rw [hstates, List.length_modify])
    · rw [hstates, List.length_modify, List.length_append]
      exact Nat.le_add_right _ _

/-- A call leaves a forest. -/
theorem IsForest.answer (c : Contexts) (h : c.IsForest) (call : StateCall)
    (hcall : call.IsKnown c) : (c.answer call).1.IsForest where
  parent id := by
    have hkeeps := h.continues_answer c call hcall
    rw [hkeeps.above]
    refine (h.parent id).imp_right ?_
    rintro ⟨p, hlt, hp⟩
    exact ⟨p, hkeeps.length ▸ hlt, by rw [hkeeps.lineage, hp]⟩
  carried x s hs := by
    have hle := c.length_states_le_answer call
    rcases c.contexts_answer call with hsame | ⟨id, hid, -, hanswer, hattach⟩
    · rw [carried?_congr c _ hsame] at hs
      exact Nat.lt_of_lt_of_le (h.carried x s hs) hle
    · rw [carried?_congr _ _ hattach, carried?_attach c id _ (hcall id hid)] at hs
      split at hs
      · rw [Option.some.injEq] at hs
        subst s
        exact h.lt_of_answer c call _ hanswer
      · exact Nat.lt_of_lt_of_le (h.carried x s hs) hle
  remembered s hs := by
    cases hanswer : (c.answer call).2 with
    | error missing =>
      rw [c.fst_answer_of_error call missing hanswer] at hs ⊢
      exact h.remembered s hs
    | ok t =>
      rw [c.remembered_answer call t hanswer, Option.some.injEq] at hs
      subst s
      exact h.lt_of_answer c call t hanswer

/-- Calls are made one after the other. -/
theorem after_append (c : Contexts) (calls more : List StateCall) :
    c.after (calls ++ more) = (c.after calls).after more :=
  List.foldl_append

/-- Calls leave a forest, and keep what each of them keeps. -/
theorem IsForest.after (c : Contexts) (h : c.IsForest) (calls : List StateCall)
    (hcalls : ∀ call ∈ calls, call.IsKnown c) :
    (c.after calls).IsForest ∧ c.Continues (c.after calls) := by
  induction calls generalizing c with
  | nil => exact ⟨h, c.continues_refl⟩
  | cons call more ih =>
    have hcall := hcalls call List.mem_cons_self
    have hkeeps := h.continues_answer c call hcall
    obtain ⟨hforest, hmore⟩ := ih (c.answer call).1 (h.answer c call hcall) fun m hm =>
      hkeeps.isKnown c _ m (hcalls m (List.mem_cons_of_mem _ hm))
    exact ⟨hforest, hkeeps.trans c _ _ hmore⟩

/-- As long as no call concerns a context, the remembered state stays. -/
theorem remembered_after (c : Contexts) (calls : List StateCall) (s : StateId)
    (hs : c.remembered = some s) (hcalls : ∀ call ∈ calls, call.context = none) :
    (c.after calls).remembered = some s := by
  induction calls generalizing c with
  | nil => exact hs
  | cons call more ih =>
    have hcall := hcalls call List.mem_cons_self
    have hanswer := c.answer_of_remembered call s (by simp [hcall]) hs
    exact ih (c.answer call).1 (by rw [hanswer]; exact hs) fun m hm =>
      hcalls m (List.mem_cons_of_mem _ hm)

/-! ## Verbosity -/

private theorem forall_mem_modify (states : List ReportState) (s : StateId)
    (f : ReportState → ReportState) (p : ReportState → Prop) (hstates : ∀ state ∈ states, p state)
    (hf : ∀ state, p state → p (f state)) : ∀ state ∈ states.modify s f, p state := by
  intro state hmem
  obtain ⟨i, hi⟩ := List.mem_iff_getElem?.mp hmem
  rw [List.getElem?_modify, Option.map_eq_map, Option.map_eq_some_iff] at hi
  obtain ⟨old, hold, rfl⟩ := hi
  have hp := hstates old (List.mem_of_getElem? hold)
  split
  · exact hf old hp
  · exact hp

private theorem verbosity_change (call : StateCall) (state : ReportState)
    (h : 0 ≤ state.verbosity) : 0 ≤ (call.change state).verbosity := by
  cases call with
  | get given active create => exact h
  | set given active verbosity tracebacks =>
    cases verbosity with
    | none => exact h
    | some v => exact Int.le_max_left 0 v

/-- Where no verbosity is below zero, calls leave none below zero. -/
theorem verbosity_after (c : Contexts) (calls : List StateCall)
    (h : ∀ state ∈ c.states, 0 ≤ state.verbosity) :
    ∀ state ∈ (c.after calls).states, 0 ≤ state.verbosity := by
  induction calls generalizing c with
  | nil => exact h
  | cons call more ih =>
    apply ih (c.answer call).1
    cases hs : (c.answer call).2 with
    | error missing => rwa [c.fst_answer_of_error call missing hs]
    | ok s =>
      have hchange := verbosity_change call
      rcases c.states_answer call s hs with hstates | ⟨-, hstates⟩
      · rw [hstates]
        exact forall_mem_modify c.states s call.change _ h hchange
      · rw [hstates]
        refine forall_mem_modify _ s call.change _ (fun state hstate => ?_) hchange
        rcases List.mem_append.mp hstate with hstate | hstate
        · exact h state hstate
        · obtain rfl := List.mem_singleton.mp hstate
          exact Int.le_refl 0

/-! ## Runs of calls -/

/-- How a call is answered. -/
structure Answers (c : Contexts) (call : StateCall) : Prop where
  /-- Where the lineage of the context carries a state, the nearest one is answered, and the
  contexts stay as they are. -/
  nearest : ∀ id s, call.context = some id → c.CarriesNearest id s →
    (c.answer call).2 = .ok s ∧ (c.answer call).1.contexts = c.contexts
  /-- Where it carries none and one may be made, a fresh state is attached to this context alone. -/
  fresh : ∀ id, call.context = some id → (∀ x ∈ c.lineage id, c.carried? x = none) →
    call.creates = true → ∃ s, (c.answer call).2 = .ok s ∧
      (∀ x, c.carried? x ≠ some s) ∧ c.remembered ≠ some s ∧
      (c.answer call).1.carried? id = some s ∧
      (∀ x ≠ id, (c.answer call).1.contexts[x]? = c.contexts[x]?) ∧
      (c.answer call).1.state s = call.change {}
  /-- The state that is answered is changed as the call says, and no other one. -/
  changed : ∀ s, (c.answer call).2 = .ok s → ∀ t < c.states.length,
    (c.answer call).1.state t = if t = s then call.change (c.state t) else c.state t
  /-- The call is refused if and only if no state may be made, none is in the lineage of its
  context, and none is remembered. -/
  refused_iff : (∃ missing, (c.answer call).2 = .error missing) ↔ call.creates = false ∧
    (∀ id, call.context = some id → ∀ x ∈ c.lineage id, c.carried? x = none) ∧
    c.remembered = none
  /-- Then it fails at run time, and nothing changes. -/
  refused : ∀ missing, (c.answer call).2 = .error missing →
    missing.failure.top.kind = .runtime ∧ (c.answer call).1 = c

/-- In a forest every call is answered so. -/
theorem IsForest.answers (c : Contexts) (h : c.IsForest) (call : StateCall)
    (hcall : call.IsKnown c) : c.Answers call where
  nearest id s hid hs := by
    rw [c.answer_of_nearest call id s hid ((c.nearest?_eq_some_iff id s).mpr hs)]
    exact ⟨rfl, rfl⟩
  fresh id hid hbare hcreates := by
    have hanswer := c.answer_of_bare call id hid ((c.nearest?_eq_none_iff id).mpr hbare) hcreates
    refine ⟨c.states.length, ?_, ?_, ?_, ?_, ?_, ?_⟩
    · rw [hanswer]
    · exact fun x hx => Nat.lt_irrefl _ (h.carried x _ hx)
    · exact fun hs => Nat.lt_irrefl _ (h.remembered _ hs)
    · rw [hanswer]
      have hcarried := carried?_attach c id c.states.length (hcall id hid) id
      rw [if_pos rfl] at hcarried
      exact hcarried
    · intro x hx
      rw [hanswer]
      exact (c.getElem?_attach id _ x).trans (if_neg hx)
    · rw [hanswer, state, changeState, List.getElem?_modify_eq]
      simp [withFresh, attach, remember, addState]
  changed s hs t ht := by
    have hold : c.states[t]? = some (c.state t) := by
      rw [state, List.getElem?_eq_getElem ht, Option.getD_some]
    -- A fresh state stands behind the old ones, which keep their numbers.
    rcases c.states_answer call s hs with hstates | ⟨-, hstates⟩
    · rw [state, hstates, List.getElem?_modify, hold]
      by_cases hts : t = s
      · simp [hts]
      · simp [hts, Ne.symm hts]
    · rw [state, hstates, List.getElem?_modify, List.getElem?_append_left ht, hold]
      by_cases hts : t = s
      · simp [hts]
      · simp [hts, Ne.symm hts]
  refused_iff := by
    simp only [answer_eq_error_iff, nearest?_eq_none_iff]
  refused missing hs := ⟨rfl, c.fst_answer_of_error call missing hs⟩

/-- What calls for states make of a forest of contexts. -/
structure SharesStates (c : Contexts) (calls : List StateCall) : Prop where
  /-- However many calls were made, the next one is answered as in any forest. -/
  answers : ∀ call : StateCall, call.IsKnown c → (c.after calls).Answers call
  /-- Lineages stay as they are. -/
  lineage : ∀ id, (c.after calls).lineage id = c.lineage id
  /-- A state once carried is never replaced. -/
  kept : ∀ more : List StateCall, (∀ m ∈ more, m.IsKnown c) → ∀ id s,
    (c.after calls).carried? id = some s → (c.after (calls ++ more)).carried? id = some s
  /-- A state that a call found in the lineage of its context, or attached to it, is answered
  whenever a later call concerns this context, or one below it without a state in between. -/
  again : ∀ (call : StateCall) (id : ContextId) (s : StateId), call.IsKnown c →
    call.context = some id →
    (call.creates = true ∨ ∃ x ∈ c.lineage id, (c.after calls).carried? x ≠ none) →
    ((c.after calls).answer call).2 = .ok s →
    ∀ (more : List StateCall) (later : StateCall) (d : ContextId) (front : List ContextId),
      (∀ m ∈ more, m.IsKnown c) → later.context = some d →
      c.lineage d = front ++ c.lineage id →
      (∀ x ∈ front, (c.after (calls ++ call :: more)).carried? x = none) →
      ((c.after (calls ++ call :: more)).answer later).2 = .ok s
  /-- A state that was answered is answered again as long as no call concerns a context. -/
  withoutContext : ∀ (call : StateCall) (s : StateId), ((c.after calls).answer call).2 = .ok s →
    ∀ (more : List StateCall) (later : StateCall), (∀ m ∈ more, m.context = none) →
      later.context = none → ((c.after (calls ++ call :: more)).answer later).2 = .ok s
  /-- Where there were no states, no verbosity is below zero. -/
  verbosity : c.states = [] → ∀ state ∈ (c.after calls).states, 0 ≤ state.verbosity

/-- In every forest of contexts, whatever the contexts carry, calls share the nearest state and
never lose it. -/
theorem shares_states (c : Contexts) (h : c.IsForest) (calls : List StateCall)
    (hcalls : ∀ call ∈ calls, call.IsKnown c) : c.SharesStates calls := by
  obtain ⟨hforest, hkeeps⟩ := h.after c calls hcalls
  constructor
  case answers =>
    intro call hcall
    exact hforest.answers _ call (hkeeps.isKnown c _ call hcall)
  case lineage => exact hkeeps.lineage c _
  case kept =>
    intro more hmore
    rw [after_append]
    exact (hforest.after _ more fun m hm => hkeeps.isKnown c _ m (hmore m hm)).2.carried
  case again =>
    intro call id s hcall hid hchain hs more later d front hmore hlater hd hfront
    have hknown := hkeeps.isKnown c _ call hcall
    have hfound := hforest.nearest?_of_answer _ call hknown id s hid (hchain.imp_right (by
      rintro ⟨x, hx, hcarried⟩ hnone
      exact hcarried ((nearest?_eq_none_iff _ id).mp hnone x (by rwa [hkeeps.lineage])))) hs
    have hsplit : c.after (calls ++ call :: more) = ((c.after calls).answer call).1.after more :=
      c.after_append calls (call :: more)
    have hstep := hforest.continues_answer _ call hknown
    obtain ⟨-, hlast⟩ := (hforest.answer _ call hknown).after _ more fun m hm =>
      (hkeeps.trans _ _ _ hstep).isKnown c _ m (hmore m hm)
    have hall := (hkeeps.trans _ _ _ hstep).trans _ _ _ hlast
    rw [hsplit] at hfront ⊢
    have hnearest := nearest?_of_append _ d id front
      (by rw [hall.lineage c, hall.lineage c, hd]) hfront
    rw [hlast.nearest id s hfound] at hnearest
    rw [answer_of_nearest _ later d s hlater hnearest]
  case withoutContext =>
    intro call s hs more later hmore hlater
    have hsplit : c.after (calls ++ call :: more) = ((c.after calls).answer call).1.after more :=
      c.after_append calls (call :: more)
    rw [hsplit]
    have hfirst := (c.after calls).remembered_answer call s hs
    have hremembered := remembered_after _ more s hfirst hmore
    rw [answer_of_remembered _ later s (by simp [hlater]) hremembered]
  case verbosity =>
    intro hnone
    exact c.verbosity_after calls (by simp [hnone])

/-- A context with another one below it and a third below that, and one that stands by itself. Two
of them carry something that is no state. -/
def threeBelow : Contexts :=
  ((((({} : Contexts).add none .foreign).1.add (some 0)).1.add (some 1) .foreign).1.add none).1

/-- Calls for these contexts, for the active one, and for none. The first one is refused. -/
def mixedCalls : List StateCall :=
  [.get none none false, .get (some 1) none true, .set none (some 2) (some (-3)) (some true),
    .get (some 3) none false, .get none none false]

theorem shares_states_threeBelow : threeBelow.IsForest ∧
    (∀ call ∈ mixedCalls, call.IsKnown threeBelow) ∧ threeBelow.SharesStates mixedCalls ∧
    (threeBelow.after mixedCalls).carried? 1 = some 0 ∧
    (threeBelow.after mixedCalls).carried? 2 = none ∧
    (threeBelow.after mixedCalls).states = [{ verbosity := 0, tracebacks := true }] := by
  have hforest : threeBelow.IsForest :=
    (((isForest_empty.add _ none .foreign (by simp) (by simp)).add _ (some 0) .nothing
      (by decide) (by simp)).add _ (some 1) .foreign (by decide) (by simp)).add _ none .nothing
      (by simp) (by simp)
  have hknown : ∀ call ∈ mixedCalls, call.IsKnown threeBelow := by
    simp [mixedCalls, StateCall.IsKnown, StateCall.context, threeBelow, add]
  exact ⟨hforest, hknown, shares_states threeBelow hforest mixedCalls hknown, rfl, rfl, rfl⟩

end Contexts

end CodeHighlight.CommandLine
