import CodeHighlight.Conversion
import CodeHighlight.Proofs.Document.Insert
import CodeHighlight.Proofs.Document.Segment
import CodeHighlight.Proofs.Highlighter.Course

/-!
# The markup of a run

A run changes the markup of a tree at the places of code alone: each block that is written stands
there as an element, or gives way to the three parts of its bundle. A conversion inserts the tree
that it reads, so it is told by the same segments; if no block gets a bundle, it writes what was
read.
-/

namespace CodeHighlight

namespace Highlighter

variable {ω γ : Type}

/-- What a run makes of the markup of a tree, told by the bundle of each slot. -/
structure KeepsMarkup (h : Highlighter ω γ) (root : NodeId) (s t : RunState ω)
    (bundle : Slot → Option (List String)) : Prop where
  /-- Before the run every block is an element. -/
  before : (s.store.tree root).render =
    String.ofList ((s.store.segments root).flatMap (·.text s.store fun _ => none))
  /-- Behind the run the segments are the same, but bundles stand in the places of their blocks. -/
  after : (t.store.tree root).render =
    String.ofList ((s.store.segments root).flatMap (·.text s.store bundle))
  /-- If the hook passes, every block that is written below the topmost object has a turn. -/
  turn : h.Passes s → ∀ n slot, .code (some slot) n ∈ s.store.segments root →
    ∃ turn ∈ h.turnsOf root s, turn.block = (n, slot)
  /-- In its turn the renderer is asked for the block as it stood in the tree. -/
  request : ∀ turn ∈ h.turnsOf root s,
    turn.request h = h.request (s.store.get turn.block.1) (turn.request h).label
  /-- The bundle of a slot is the answer in its turn, if that has all three parts. -/
  bundle_turn : ∀ turn ∈ h.turnsOf root s, bundle turn.block.2 =
    answerParts? (h.renderer (turn.request h) turn.state.world).1
  /-- A slot without a turn has no bundle. -/
  bundle_other : ∀ slot, slot ∉ (h.turnsOf root s).map (·.block.2) → bundle slot = none

/-- A run over a tree keeps all markup outside the places of code. -/
theorem keepsMarkup_transform (h : Highlighter ω γ) (root : NodeId) (s : RunState ω)
    (tree : s.store.IsTree root) :
    ∃ bundle, h.KeepsMarkup root s (h.transform root s).2 bundle := by
  have order := order_inOrder (discover s.store root)
  obtain ⟨done, hdone, htexts, -⟩ := h.rewritten_transform root s
  have hslots := h.map_slot_outcome (h.turnsOf root s)
  have hnodup : ((h.turnsOf root s).map (·.block.2)).Nodup := by
    have hsub := (h.sublist_turnsOf root s).map Prod.snd
    rw [List.map_map] at hsub
    apply hsub.nodup
    rw [(order.perm.map Prod.snd).nodup_iff]
    exact discover_slots_nodup s.store root tree
  have hother : ∀ slot, slot ∉ (h.turnsOf root s).map (·.block.2) → done.texts? slot = none := by
    intro slot hslot
    rw [htexts, Store.firstParts_of_not_mem _ _ (hslots ▸ hslot)]
  -- Only the slot of a turn has a bundle, and a block stands there.
  have hcode : ∀ n slot, ⟨n, some slot⟩ ∈ s.store.visits root → done.texts? slot ≠ none →
      (s.store.get n).kind = Node.codeKind := by
    intro n slot hv hne
    obtain ⟨turn, ht, rfl⟩ := List.mem_map.mp (Classical.not_not.mp (mt (hother slot) hne))
    have hfound := (mem_discover _ root _).mp (h.mem_discover_of_turn root s turn ht)
    have hn := (Store.slot_of_mem_visits s.store root _ _ hv rfl).2
    rw [(Store.slot_of_mem_visits s.store root _ _ hfound.1 rfl).2, Option.some.injEq] at hn
    subst hn
    exact hfound.2
  refine ⟨done.texts?, ?_⟩
  constructor
  case before => rw [Node.render, Store.IsTree.markup_tree s.store root tree]
  case after => rw [Node.render, Store.Rewritten.markup_tree s.store _ done hdone root tree hcode]
  case turn =>
    intro hpasses n slot hm
    obtain ⟨hv, hkind⟩ := Occurrence.mem_preorder_of_code s.store none _ (some slot) n hm
    rw [← Occurrence.visits_eq_preorder, ← Store.visits] at hv
    have hblock := order.perm.mem_iff.mpr ((mem_discover s.store root (n, slot)).mpr ⟨hv, hkind⟩)
    rw [← h.map_block_turnsOf root s ((h.passes_iff s).mp hpasses)] at hblock
    exact List.mem_map.mp hblock
  case request => exact h.request_of_mem_turnsOf root s
  case bundle_turn =>
    intro turn ht
    have hfirst := Store.firstParts_of_mem _ _ (List.mem_map_of_mem (f := (·.outcome h)) ht)
      (hslots ▸ hnodup)
    exact (htexts turn.block.2).trans hfirst
  case bundle_other => exact hother

/-- A run in which no block gets a bundle keeps the markup of a tree. -/
theorem render_transform_of_no_bundles (h : Highlighter ω γ) (root : NodeId) (s : RunState ω)
    (tree : s.store.IsTree root)
    (none_rendered : ∀ turn ∈ h.turnsOf root s,
      answerParts? (h.renderer (turn.request h) turn.state.world).1 = none) :
    ((h.transform root s).2.store.tree root).render = (s.store.tree root).render := by
  obtain ⟨bundle, keeps⟩ := h.keepsMarkup_transform root s tree
  have hnone : bundle = fun _ => none := by
    funext slot
    by_cases hm : slot ∈ (h.turnsOf root s).map (·.block.2)
    · obtain ⟨turn, ht, rfl⟩ := List.mem_map.mp hm
      rw [keeps.bundle_turn turn ht, none_rendered turn ht]
    · exact keeps.bundle_other slot hm
  rw [keeps.after, keeps.before, hnone]

/-- The state in which the conversion of a tree begins its run. -/
def inserted (tree : Node) (s : ConversionState ω) : RunState ω where
  world := s.world
  context := s.context
  store := (({} : Store).insert tree).1

/-- The turns in the conversion of a source; there are none where the source cannot be read. -/
def turnsOfSource (h : Highlighter ω γ) (source : String) (s : ConversionState ω) :
    List (Turn ω) :=
  match FrontMatter.split source with
  | .error _ => []
  | .ok front =>
    match Markdown.parse front.body with
    | .error _ => []
    | .ok tree => h.turnsOf (({} : Store).insert tree).2 (inserted tree s)

end Highlighter

/-- Converts a source without highlighting: its document is written as it was read. -/
def Conversion.plain (source : String) : Except Failure Conversion :=
  match FrontMatter.split source with
  | .error failure => .error failure
  | .ok front =>
    match Markdown.parse front.body with
    | .error fault => .error fault.failure
    | .ok tree => .ok ⟨tree.render, front.entries⟩

namespace Highlighter

variable {ω γ : Type}

/-- A conversion whose hook passes and in which no block gets a bundle writes what was read. -/
theorem convertSource_of_no_bundles (h : Highlighter ω γ) (source : String)
    (s : ConversionState ω) (passes : ∀ hook, h.hook = some hook → (hook s.world).1 = .ok ())
    (none_rendered : ∀ turn ∈ h.turnsOfSource source s,
      answerParts? (h.renderer (turn.request h) turn.state.world).1 = none) :
    (h.convertSource source s).1 = Conversion.plain source := by
  rw [turnsOfSource] at none_rendered
  rw [convertSource, Conversion.plain]
  cases hsplit : FrontMatter.split source with
  | error failure => rfl
  | ok front =>
    rw [hsplit] at none_rendered
    dsimp only at none_rendered ⊢
    cases hparse : Markdown.parse front.body with
    | error fault => rfl
    | ok tree =>
      rw [hparse] at none_rendered
      have hok := h.transform_ok (({} : Store).insert tree).2 (inserted tree s)
        ((h.passes_iff _).mp passes)
      have hrender := h.render_transform_of_no_bundles _ (inserted tree s)
        (Store.isTree_insert tree) none_rendered
      rw [inserted, Store.tree_insert] at hrender
      rw [inserted] at hok
      dsimp only [transformTree]
      rw [hok, Except.map, Except.map, hrender]

/-- A run changes the markup of a tree at the places of code alone. An inserted document is a tree
that reads back as it was, and its conversion writes what was read if no block gets a bundle. -/
theorem markup_kept (h : Highlighter ω γ) :
    (∀ root (s : RunState ω), s.store.IsTree root →
      ∃ bundle, h.KeepsMarkup root s (h.transform root s).2 bundle) ∧
    (∀ tree : Node, (({} : Store).insert tree).1.IsTree (({} : Store).insert tree).2 ∧
      (({} : Store).insert tree).1.tree (({} : Store).insert tree).2 = tree) ∧
    ∀ source (s : ConversionState ω),
      (∀ hook, h.hook = some hook → (hook s.world).1 = .ok ()) →
      (∀ turn ∈ h.turnsOfSource source s,
        answerParts? (h.renderer (turn.request h) turn.state.world).1 = none) →
      (h.convertSource source s).1 = Conversion.plain source :=
  ⟨h.keepsMarkup_transform, fun tree => ⟨Store.isTree_insert tree, Store.tree_insert tree⟩,
    h.convertSource_of_no_bundles⟩

/-- A highlighter that renders nothing. -/
def muteHighlighter : Highlighter Unit Unit :=
  { pickyHighlighter with renderer := fun _ w => (.error (.plain .render "nothing"), w) }

/-- The nested document keeps its markup outside code, and where nothing is rendered a fence is
written as it was read. -/
theorem markup_kept_nested_fence :
    let s : RunState Unit := { world := (), context := {}, store := nestedStore }
    (∃ bundle, pickyHighlighter.KeepsMarkup 0 s (pickyHighlighter.transform 0 s).2 bundle) ∧
      (muteHighlighter.convertSource "```\nx\n```" ⟨(), {}⟩).1 =
        Conversion.plain "```\nx\n```" :=
  ⟨(markup_kept pickyHighlighter).1 0 _ isTree_nestedStore,
    (markup_kept muteHighlighter).2.2 _ _ nofun fun _ _ => rfl⟩

end Highlighter

end CodeHighlight
