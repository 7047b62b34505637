import CodeHighlight.Fault

/-!
# Contexts of commands

Commands run in contexts that form a forest. How much is reported is a state that a context may
carry; a context without one takes the state of the nearest context above it. The state that was
asked for last through a context is remembered and answers where no context is at hand.
-/

namespace CodeHighlight.CommandLine

/-- How much is reported. -/
structure ReportState where
  /-- From one on failures are explained and events shown, from two on causes are listed. -/
  verbosity : Int := 0
  /-- Whether failures show where they came from. -/
  tracebacks : Bool := false
deriving Repr, DecidableEq

/-- The number of a state. -/
abbrev StateId := Nat

/-- The number of a context. -/
abbrev ContextId := Nat

/-- What a context carries. -/
inductive Attachment where
  | nothing
  /-- Something that is no state. -/
  | foreign
  | state (id : StateId)
deriving Repr, DecidableEq

/-- A context, with the contexts above it from the nearest to the topmost. -/
structure Context where
  above : List ContextId := []
  attachment : Attachment := .nothing
deriving Repr, DecidableEq

/-- All contexts, all states, and the remembered state. -/
structure Contexts where
  contexts : List Context := []
  states : List ReportState := []
  remembered : Option StateId := none
deriving Repr, DecidableEq

/-- No state is at hand, and none is to be made. -/
structure StateMissing where
deriving Repr, DecidableEq

/-- The failure that a missing state raises. -/
def StateMissing.failure (_ : StateMissing) : Failure :=
  .plain .runtime "CLI state is not initialised for this context."

namespace Contexts

/-- The state with a number. -/
def state (c : Contexts) (id : StateId) : ReportState := (c.states[id]?).getD {}

/-- The state that a context carries itself. -/
def carried? (c : Contexts) (id : ContextId) : Option StateId :=
  match (c.contexts[id]?).map Context.attachment with
  | some (.state s) => some s
  | _ => none

/-- A context and those above it. -/
def lineage (c : Contexts) (id : ContextId) : List ContextId :=
  id :: ((c.contexts[id]?).elim [] Context.above)

/-- The state of the nearest context of a lineage that carries one. -/
def nearest? (c : Contexts) (id : ContextId) : Option StateId :=
  (c.lineage id).findSome? c.carried?

/-- Opens a context, below another one if that is given. -/
def add (c : Contexts) (parent : Option ContextId) (attachment : Attachment := .nothing) :
    Contexts × ContextId :=
  ({ c with contexts := c.contexts ++ [⟨parent.elim [] c.lineage, attachment⟩] },
    c.contexts.length)

/-- Remembers a state. -/
def remember (c : Contexts) (id : StateId) : Contexts := { c with remembered := some id }

/-- Makes a state. -/
def addState (c : Contexts) : Contexts × StateId :=
  ({ c with states := c.states ++ [{}] }, c.states.length)

/-- Lets a context carry a state. -/
def attach (c : Contexts) (id : ContextId) (s : StateId) : Contexts :=
  { c with contexts := c.contexts.modify id fun context =>
      { context with attachment := .state s } }

/-- The remembered state; where there is none, a fresh one if one may be made. -/
def fallback (c : Contexts) (create : Bool) : Contexts × Except StateMissing StateId :=
  match c.remembered with
  | some s => (c, .ok s)
  | none =>
    if create then
      let (c, s) := c.addState
      (c.remember s, .ok s)
    else (c, .error {})

/-- The state of a context. Where its lineage carries none, a fresh one is attached to the context
itself if one may be made. -/
def get (c : Contexts) (context : Option ContextId) (create : Bool := true) :
    Contexts × Except StateMissing StateId :=
  match context with
  | none => c.fallback create
  | some id =>
    match c.nearest? id with
    | some s => (c.remember s, .ok s)
    | none =>
      if create then
        let (c, s) := c.addState
        ((c.attach id s).remember s, .ok s)
      else c.fallback false

/-- A state with what is given put in place; a verbosity below zero counts as zero. -/
def updated (state : ReportState) (verbosity : Option Int) (tracebacks : Option Bool) :
    ReportState where
  verbosity := verbosity.elim state.verbosity (max 0)
  tracebacks := tracebacks.getD state.tracebacks

/-- Changes the state of a context, which is made if there is none. -/
def set (c : Contexts) (context : Option ContextId) (verbosity : Option Int)
    (tracebacks : Option Bool) : Contexts × Except StateMissing StateId :=
  match c.get context with
  | (c, .ok s) =>
    ({ c with states := c.states.modify s fun state => updated state verbosity tracebacks },
      .ok s)
  | (c, .error missing) => (c, .error missing)

/-- Whether failures show where they came from, as the state that is at hand says. -/
def showsTracebacks (c : Contexts) : Bool :=
  match c.get none false with
  | (c, .ok s) => (c.state s).tracebacks
  | (_, .error _) => false

/-- A request that finds no state changes nothing. -/
theorem fst_fallback_false (c : Contexts) : (c.fallback false).1 = c := by
  unfold fallback
  split <;> simp

/-- A request that may make a state finds one. -/
theorem exists_get_create (c : Contexts) (context : Option ContextId) :
    ∃ s, (c.get context).2 = .ok s := by
  unfold get fallback
  repeat' split
  all_goals simp_all

end Contexts

end CodeHighlight.CommandLine
