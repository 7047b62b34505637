import CodeHighlight.Directives.Meta
import CodeHighlight.Document.Splice
import CodeHighlight.Label
import CodeHighlight.Language.Loader

/-!
# Highlighting the code blocks of a document

A run has four phases: the hook, a look for all code blocks, loading their languages, and rendering.
Blocks are rendered from the highest index to the lowest, so that replacing one block by three nodes
moves no block that is still to come. A block that fails is reported and stays as it is.
-/

namespace CodeHighlight

/-- What a renderer gives back; a part is missing when it is not text. -/
structure Payload where
  markup : Option String
  style : Option String
  script : Option String
deriving Repr, DecidableEq

namespace Payload

/-- The three parts, or the failure that names the first missing one. -/
def parts (p : Payload) : Except Failure (List String) :=
  let missing (name : String) : Failure :=
    .plain .render ("Renderer returned no '" ++ name ++ "' payload")
  match p.markup, p.style, p.script with
  | none, _, _ => .error (missing "markup")
  | some _, none, _ => .error (missing "style")
  | some _, some _, none => .error (missing "script")
  | some markup, some style, some script => .ok [markup, style, script]

end Payload

/-- What the runs over several documents share. -/
structure HighlightContext where
  languages : LanguageCache := {}
  counter : LabelCounter := {}
deriving Repr, DecidableEq

/-- A highlighter whose collaborators act on a world `ω`. -/
structure Highlighter (ω γ : Type) where
  theme : String
  defaults : Directives
  hook : Option (Action ω Unit)
  supply : GrammarSupply ω γ
  renderer : RenderRequest → Action ω Payload

/-- The state of a run. -/
structure RunState (ω : Type) where
  world : ω
  context : HighlightContext
  store : Store
  trace : List Step := []

namespace RunState

variable {ω : Type}

/-- Appends a step to the trace. -/
def note (s : RunState ω) (step : Step) : RunState ω := { s with trace := s.trace ++ [step] }

end RunState

namespace Highlighter

variable {ω γ : Type}

/-- The code blocks that stand in some node's children, in document order. -/
def discover (s : Store) (root : NodeId) : List (NodeId × Slot) :=
  (s.visitsOf Node.codeKind root).filterMap fun v => v.slot.map fun slot => (v.node, slot)

/-- Blocks by descending index; blocks of one index keep document order. -/
def inOrder (blocks : List (NodeId × Slot)) : List (NodeId × Slot) :=
  blocks.mergeSort fun a b => b.2.index ≤ a.2.index

/-- What the renderer is asked for a block. -/
def request (h : Highlighter ω γ) (block : NodeRecord) (label : String) : RenderRequest where
  code := block.value.getD ""
  language := Language.normalize block.language
  theme := h.theme
  label := label
  directives := (Directives.ofMeta block.info).withDefaults h.defaults

/-- Puts the parts of a bundle as finished markup in the place of a block. -/
def replaceBlock (s : Store) (block : NodeId × Slot) (parts : List String) :
    Except SpliceFault Store :=
  let fresh := parts.map fun part => ({ kind := Node.htmlKind, value := some part } : NodeRecord)
  let added := fresh.foldl (fun (s, ids) r => let (s, id) := s.add r; (s, ids ++ [id])) (s, [])
  added.1.splice ⟨block.1, block.2.parent, block.2.index⟩ added.2

/-- Renders a block and puts the bundle in its place. -/
def convert (h : Highlighter ω γ) (block : NodeId × Slot) (s : RunState ω) :
    Except Failure Unit × RunState ω :=
  let (label, counter) := s.context.counter.next
  let s := { s with context := { s.context with counter } }
  let request := h.request (s.store.get block.1) label
  let s := s.note (.render request)
  match h.renderer request s.world with
  | (.error failure, world) => (.error failure, { s with world })
  | (.ok payload, world) =>
    let s := { s with world }
    match payload.parts with
    | .error failure => (.error failure, s)
    | .ok parts =>
      match replaceBlock s.store block parts with
      | .error fault => (.error fault.failure, s)
      | .ok store =>
        (.ok (), { s with store }.note (.replaced request.language block.2.index label))

/-- Converts a block or reports why it stays; the flag tells whether it was converted. -/
def process (h : Highlighter ω γ) (block : NodeId × Slot) (s : RunState ω) : Bool × RunState ω :=
  let language := Language.normalize (s.store.get block.1).language
  match h.convert block s with
  | (.ok (), s) => (true, s)
  | (.error failure, s) =>
    (false, s.note (.report
      (.error ("Failed to process code block (lang: " ++ language ++ ")") (some failure))))

/-- Processes blocks in the given order and counts those converted and those that failed. -/
def processAll (h : Highlighter ω γ) :
    List (NodeId × Slot) → RunState ω → (Nat × Nat) × RunState ω
  | [], s => ((0, 0), s)
  | block :: rest, s =>
    let (done, s) := h.process block s
    let ((converted, failed), s) := h.processAll rest s
    (if done then (converted + 1, failed) else (converted, failed + 1), s)

/-- Loads the languages of a document. -/
def loadLanguages (h : Highlighter ω γ) (root : NodeId) (s : RunState ω) : RunState ω :=
  let (_, loaded) := LoadState.load h.supply (Language.collect s.store root)
    ⟨s.world, s.context.languages, s.trace⟩
  { s with
    world := loaded.world
    context := { s.context with languages := loaded.cache }
    trace := loaded.trace }

/-- Runs the hook, if there is one. -/
def runHook (h : Highlighter ω γ) (s : RunState ω) : Except Failure Unit × RunState ω :=
  match h.hook with
  | none => (.ok (), s)
  | some hook =>
    let s := s.note .hook
    let (result, world) := hook s.world
    (result, { s with world })

/-- Highlights every code block below a node. Only a failing hook ends a run early. -/
def transform (h : Highlighter ω γ) (root : NodeId) (s : RunState ω) :
    Except Failure Unit × RunState ω :=
  match h.runHook s with
  | (.error failure, s) => (.error failure, s)
  | (.ok (), s) =>
    match discover s.store root with
    | [] => (.ok (), s)
    | blocks =>
      let s := h.loadLanguages root s
      let ((converted, failed), s) := h.processAll (inOrder blocks) s
      (.ok (), s.note (.report (.blocksHighlighted converted failed)))

end Highlighter

end CodeHighlight
