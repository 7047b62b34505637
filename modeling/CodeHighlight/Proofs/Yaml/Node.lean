import CodeHighlight.Proofs.Yaml.Keeps
import CodeHighlight.Yaml.Node.Reader

/-!
# Faults of nodes

The reader of nodes has no faults of its own: a row of tokens that writes no document is malformed,
or says itself at a broken token why it cannot be read.
-/

namespace CodeHighlight.Yaml

namespace NodeReader

/-- The tokens say why they cannot be read, or the text is malformed. -/
def IsSaid (tokens : List Token) (fault : Fault) : Prop :=
  fault = .malformed ∨ .broken fault ∈ tokens

variable (tokens : List Token)

/-- A reading passes tokens only, and fails only with what they say. -/
def Reads {α : Type} (m : Reader α) : Prop :=
  Keeps (fun s : State => s.tokens ⊆ tokens) (IsSaid tokens) m

/-! ## Single tokens, names and tags -/

private theorem reads_refuse {α : Type} : Reads tokens (refuse : Reader α) :=
  .throw _ (Or.inl rfl)

/-- A token is seen, or says what is wrong. -/
private theorem reads_peek : Reads tokens peek := by
  refine Keeps.get_bind fun s hs => ?_
  split
  · exact reads_refuse tokens
  · next fault rest hnext =>
    exact .throw fault (Or.inr (hs (by rw [hnext]; exact List.mem_cons_self)))
  · exact .pure _

private theorem reads_pass : Reads tokens pass :=
  .modify _ fun _ hs _ hmem => hs (List.mem_of_mem_tail hmem)

private theorem reads_accept (token : Token) : Reads tokens (accept token) := by
  refine (reads_peek tokens).bind fun following => .ite ?_ (.pure false)
  exact (reads_pass tokens).bind fun _ => .pure true

private theorem reads_expect (token : Token) : Reads tokens (expect token) :=
  (reads_accept tokens token).bind fun _ => .ite (reads_refuse tokens) (.pure ())

private theorem reads_among (stops : List Token) : Reads tokens (among stops) :=
  (reads_peek tokens).bind fun _ => .pure _

private theorem reads_begin (name : Option String) (node : Node) :
    Reads tokens (begin name node) := by
  unfold begin
  refine Keeps.get.bind fun s => ?_
  extract_lets number behind
  have hbehind (u : Unit) : Reads tokens (behind u) :=
    .bind (.modify _ fun _ hs => hs) fun _ => .pure _
  split
  · refine Keeps.get.bind fun s => ?_
    extract_lets named
    have hnamed (u : Unit) : Reads tokens (named u) := .bind (.modify _ fun _ hs => hs) hbehind
    exact .ite ((reads_refuse tokens).bind hnamed) (hnamed ())
  · exact hbehind ()

private theorem reads_empty : Reads tokens empty := reads_begin tokens none _

private theorem reads_collection (name : Option String) (tag : Tag) (read : Reader Content)
    (h : Reads tokens read) : Reads tokens (collection name tag read) :=
  (reads_begin tokens name _).bind fun _ => h.bind fun _ =>
    .bind (.modify _ fun _ hs => hs) fun _ => .pure _

private theorem reads_named (name : String) : Reads tokens (named name) := by
  refine Keeps.get.bind fun s => ?_
  split
  · exact reads_refuse tokens
  · exact .pure _

private theorem reads_tagName (handle : Option String) (suffix : String) :
    Reads tokens (tagName handle suffix) := by
  unfold tagName
  split
  · exact .pure suffix
  · refine Keeps.get.bind fun s => ?_
    split
    · exact reads_refuse tokens
    · exact .pure _

private theorem reads_anchor? : Reads tokens anchor? := by
  refine (reads_peek tokens).bind fun token => ?_
  split
  · exact (reads_pass tokens).bind fun _ => .pure _
  · exact .pure none

private theorem reads_tag? : Reads tokens tag? := by
  refine (reads_peek tokens).bind fun token => ?_
  split
  · exact (reads_pass tokens).bind fun _ => .pure _
  · exact .pure none

private theorem reads_properties : Reads tokens properties := by
  refine (reads_anchor? tokens).bind fun first => (reads_tag? tokens).bind fun tag => ?_
  extract_lets behind
  have hbehind (name : Option String) : Reads tokens (behind name) := by
    unfold behind
    split
    · exact .pure _
    · exact (reads_tagName tokens _ _).bind fun _ => .pure _
  exact .ite ((reads_anchor? tokens).bind hbehind) ((Keeps.pure first).bind hbehind)

/-! ## Nodes -/

/-- What stands before an entry of a flow collection: its end, or a comma unless it is the first. -/
private theorem reads_flowEntry {α : Type} (stop : Token) (first : Bool) (m : Reader (List α))
    (hm : Reads tokens m) : Reads tokens (do
      if ← accept stop then return []
      if !first then expect .flowEntry
      m) :=
  (reads_accept tokens stop).bind fun _ => .ite (.pure [])
    (.ite ((reads_expect tokens .flowEntry).bind fun _ => hm) hm)

/-- All readings with so much fuel. -/
structure ReadsNodes (fuel : Nat) : Prop where
  node : ∀ place, Reads tokens (node place fuel)
  nodeUnless : ∀ stops place, Reads tokens (nodeUnless stops place fuel)
  blockItems : Reads tokens (blockItems fuel)
  looseItems : Reads tokens (looseItems fuel)
  valueUnless : ∀ stops place, Reads tokens (valueUnless stops place fuel)
  blockPairs : Reads tokens (blockPairs fuel)
  flowItems : ∀ first, Reads tokens (flowItems fuel first)
  flowPairs : ∀ first, Reads tokens (flowPairs fuel first)

section

variable (fuel : Nat) (ih : ReadsNodes tokens fuel)

include ih

private theorem reads_node (place : Place) : Reads tokens (node place (fuel + 1)) := by
  unfold node
  refine (reads_peek tokens).bind fun token => ?_
  split
  · exact (reads_pass tokens).bind fun _ => reads_named tokens _
  refine (reads_properties tokens).bind fun (name, tag) => ?_
  dsimp only
  have hcollection (default : Tag) (read : Reader Content) (h : Reads tokens read) :
      Reads tokens (collection name (collectionTag tag default) read) :=
    reads_collection tokens name _ read h
  refine (reads_peek tokens).bind fun content => ?_
  split
  · exact (reads_pass tokens).bind fun _ => reads_begin tokens name _
  · exact (reads_pass tokens).bind fun _ => hcollection _ _ ((ih.flowItems true).map _)
  · exact (reads_pass tokens).bind fun _ => hcollection _ _ ((ih.flowPairs true).map _)
  · refine .ite (hcollection _ _ (ih.looseItems.map _)) (.ite ?_ (.ite ?_ (.ite ?_ ?_)))
    · exact (reads_pass tokens).bind fun _ => hcollection _ _ (ih.blockItems.map _)
    · exact (reads_pass tokens).bind fun _ => hcollection _ _ (ih.blockPairs.map _)
    · exact reads_begin tokens name _
    · exact reads_refuse tokens

private theorem reads_nodeUnless (stops : List Token) (place : Place) :
    Reads tokens (nodeUnless stops place (fuel + 1)) :=
  (reads_among tokens stops).bind fun _ => .ite (reads_empty tokens) (ih.node place)

private theorem reads_valueUnless (stops : List Token) (place : Place) :
    Reads tokens (valueUnless stops place (fuel + 1)) :=
  (reads_accept tokens .value).bind fun _ => .ite (ih.nodeUnless stops place) (reads_empty tokens)

private theorem reads_blockItems : Reads tokens (blockItems (fuel + 1)) := by
  refine (reads_accept tokens .blockEntry).bind fun _ => .ite ?_ ?_
  · exact (ih.nodeUnless _ _).bind fun _ => ih.blockItems.bind fun _ => .pure _
  · exact (reads_expect tokens .blockEnd).bind fun _ => .pure []

private theorem reads_looseItems : Reads tokens (looseItems (fuel + 1)) := by
  refine (reads_accept tokens .blockEntry).bind fun _ => .ite ?_ (.pure [])
  exact (ih.nodeUnless _ _).bind fun _ => ih.looseItems.bind fun _ => .pure _

private theorem reads_blockPairs : Reads tokens (blockPairs (fuel + 1)) := by
  refine (reads_accept tokens .key).bind fun _ => .ite ?_ ?_
  · exact (ih.nodeUnless _ _).bind fun _ => (ih.valueUnless _ _).bind fun _ =>
      ih.blockPairs.bind fun _ => .pure _
  · exact (reads_expect tokens .blockEnd).bind fun _ => .pure []

private theorem reads_flowItems (first : Bool) : Reads tokens (flowItems (fuel + 1) first) := by
  refine reads_flowEntry tokens .flowSequenceEnd first _ ?_
  refine (reads_accept tokens .key).bind fun _ => .ite ?_ ?_
  · exact (ih.nodeUnless _ _).bind fun _ => (ih.valueUnless _ _).bind fun _ =>
      (reads_begin tokens none _).bind fun _ => (ih.flowItems false).bind fun _ => .pure _
  · refine (reads_accept tokens .flowSequenceEnd).bind fun _ => .ite (.pure []) ?_
    exact (ih.node .flow).bind fun _ => (ih.flowItems false).bind fun _ => .pure _

private theorem reads_flowPairs (first : Bool) : Reads tokens (flowPairs (fuel + 1) first) := by
  refine reads_flowEntry tokens .flowMappingEnd first _ ?_
  refine (reads_accept tokens .key).bind fun _ => .ite ?_ ?_
  · exact (ih.nodeUnless _ _).bind fun _ => (ih.valueUnless _ _).bind fun _ =>
      (ih.flowPairs false).bind fun _ => .pure _
  · refine (reads_accept tokens .flowMappingEnd).bind fun _ => .ite (.pure []) ?_
    exact (ih.node .flow).bind fun _ => (reads_empty tokens).bind fun _ =>
      (ih.flowPairs false).bind fun _ => .pure _

end

/-- Reading nodes passes tokens only, and fails only with what they say. -/
theorem readsNodes (fuel : Nat) : ReadsNodes tokens fuel := by
  induction fuel with
  | zero =>
    exact {
      node := fun _ => reads_refuse tokens
      nodeUnless := fun _ _ => reads_refuse tokens
      blockItems := reads_refuse tokens
      looseItems := reads_refuse tokens
      valueUnless := fun _ _ => reads_refuse tokens
      blockPairs := reads_refuse tokens
      flowItems := fun _ => reads_refuse tokens
      flowPairs := fun _ => reads_refuse tokens }
  | succ fuel ih =>
    exact {
      node := reads_node tokens fuel ih
      nodeUnless := reads_nodeUnless tokens fuel ih
      blockItems := reads_blockItems tokens fuel ih
      looseItems := reads_looseItems tokens fuel ih
      valueUnless := reads_valueUnless tokens fuel ih
      blockPairs := reads_blockPairs tokens fuel ih
      flowItems := reads_flowItems tokens fuel ih
      flowPairs := reads_flowPairs tokens fuel ih }

/-! ## Documents -/

private theorem reads_directives (fuel : Nat) (versioned : Bool) :
    Reads tokens (directives fuel versioned) := by
  induction fuel generalizing versioned with
  | zero => exact reads_refuse tokens
  | succ fuel ih =>
    unfold directives
    refine (reads_peek tokens).bind fun token => ?_
    split
    · extract_lets behind
      have hbehind (u : Unit) : Reads tokens (behind u) :=
        (reads_pass tokens).bind fun _ => ih true
      exact .ite ((reads_refuse tokens).bind hbehind) (hbehind ())
    · refine Keeps.get.bind fun s => ?_
      extract_lets behind
      have hbehind (u : Unit) : Reads tokens (behind u) :=
        .bind (.modify _ fun _ hs => hs) fun _ => (reads_pass tokens).bind fun _ => ih versioned
      exact .ite ((reads_refuse tokens).bind hbehind) (hbehind ())
    · exact (reads_pass tokens).bind fun _ => ih versioned
    · exact .pure _

private theorem reads_passEnds (fuel : Nat) : Reads tokens (passEnds fuel) := by
  induction fuel with
  | zero => exact .pure ()
  | succ fuel ih => exact (reads_accept tokens .documentEnd).bind fun _ => .ite ih (.pure ())

private theorem reads_refuseDocument {α : Type} (fuel : Nat) :
    Reads tokens (refuseDocument fuel : Reader α) :=
  .bind (.modify _ fun _ hs => hs) fun _ => (reads_directives tokens fuel false).bind fun _ =>
    reads_refuse tokens

private theorem reads_document (fuel : Nat) : Reads tokens (document fuel) := by
  refine (reads_accept tokens .done).bind fun _ => .ite (.pure none) ?_
  refine (reads_peek tokens).bind fun token => ?_
  extract_lets close behind
  have hclose (root : Nat) : Reads tokens (close root) :=
    (reads_passEnds tokens fuel).bind fun _ => (reads_accept tokens .done).bind fun _ =>
      .ite ((reads_refuseDocument tokens fuel).bind fun _ => .pure _) (.pure _)
  have hbehind (explicit : Bool) : Reads tokens (behind explicit) := by
    unfold behind
    extract_lets inside start
    have hinside (bare : Bool) : Reads tokens (inside bare) :=
      .ite ((reads_empty tokens).bind hclose) (((readsNodes tokens fuel).node .block).bind hclose)
    have hstart (u : Unit) : Reads tokens (start u) := by
      refine .bind (.modify _ fun _ hs => hs) fun _ => (reads_peek tokens).bind fun token => ?_
      split <;> exact (Keeps.pure _).bind hinside
    refine .ite ?_ (hstart ())
    exact (reads_directives tokens fuel false).bind fun _ =>
      (reads_expect tokens .documentStart).bind hstart
  split <;> exact (Keeps.pure _).bind hbehind

end NodeReader

/-- A row of tokens that writes no document is malformed, or says why it cannot be read. -/
theorem Document.ofTokens_error (tokens : List Token) (fault : Fault)
    (h : Document.ofTokens tokens = .error fault) (hfault : fault ≠ .malformed) :
    .broken fault ∈ tokens := by
  have hreads := NodeReader.reads_document tokens (4 * tokens.length + 4) { tokens }
    (List.Subset.refl tokens)
  unfold Document.ofTokens at h
  dsimp only at h
  cases hrun : (NodeReader.document (4 * tokens.length + 4)).run { tokens } with
  | ok result =>
    rw [hrun] at h
    cases h
  | error said =>
    rw [hrun] at h hreads
    cases h
    exact hreads.resolve_left hfault

end CodeHighlight.Yaml
