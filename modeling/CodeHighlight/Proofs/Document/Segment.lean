import CodeHighlight.Document.Markup
import CodeHighlight.Proofs.Document.Tree

/-!
# Segments of markup

The markup of a document is a row of segments: what opens and closes its containers, its leaves, and
one place for each code object that is written. Where code gives way to bundles, the row stays the
same and the places alone are filled otherwise. Nothing below a code object is written.
-/

namespace CodeHighlight

/-- A piece of the markup of a document. -/
inductive Segment where
  /-- The text of a leaf, or what opens or closes a container. -/
  | fixed (text : List Char)
  /-- The place of a code object, which the topmost object has without a slot. -/
  | code (slot : Option Slot) (node : NodeId)
deriving Repr, DecidableEq

namespace Segment

/-- A text as whole lines: nothing stays nothing, what ends with a line feed stays as it is, and
anything else gets one. -/
def inLines (text : List Char) : List Char :=
  match text.getLast? with
  | none => []
  | some '\n' => text
  | some _ => text ++ ['\n']

/-- Leaves and finished markup are written as whole lines. -/
theorem closeLine_eq_inLines (text : List Char) : Node.closeLine text = inLines text := by
  rw [Node.closeLine]
  fun_cases inLines text with
  | case1 hnone =>
    rw [List.getLast?_eq_none_iff] at hnone
    rw [hnone]
    rfl
  | case2 hend => rw [hend, if_pos (by simp)]
  | case3 c hne hend =>
    have hfilled : text ≠ [] := fun hnil => by
      rw [hnil] at hend
      cases hend
    rw [hend, if_neg]
    simpa [hfilled] using hne

/-- What stands at a segment: at the place of code the bundle of its slot, each part as whole lines,
or else the code as an element. -/
def text (s : Store) (bundle : Slot → Option (List String)) : Segment → List Char
  | fixed text => text
  | code slot n =>
    match slot.bind bundle with
    | some parts => parts.flatMap fun part => inLines part.toList
    | none =>
      Node.codeElement (Node.characters (s.get n).value) (Node.characters (s.get n).language)

end Segment

namespace Occurrence

mutual

/-- The segments of a tree that stands in `slot`. -/
def segments (s : Store) (slot : Option Slot) : Occurrence → List Segment
  | mk n cs =>
    let r := s.get n
    if r.kind = Node.codeKind then [.code slot n]
    else match r.children with
      | some _ => .fixed (Node.characters r.opening) ::
          segmentsAll s n 0 cs ++ [.fixed (Node.characters r.closing)]
      | none => [.fixed (Segment.inLines (Node.characters r.value))]

/-- The segments of the children of `parent` from `index` on. -/
def segmentsAll (s : Store) (parent : NodeId) (index : Nat) : List Occurrence → List Segment
  | [] => []
  | o :: rest => segments s (some ⟨parent, index⟩) o ++ segmentsAll s parent (index + 1) rest

end

/-- A code object is one place, whatever lies below it. -/
theorem segments_of_code (s : Store) (slot : Option Slot) (o : Occurrence)
    (h : (s.get o.node).kind = Node.codeKind) : o.segments s slot = [.code slot o.node] := by
  cases o with
  | mk n cs =>
    rw [segments]
    exact if_pos h

mutual

/-- The places of code are those of visited code objects. -/
theorem mem_preorder_of_code (s : Store) (slot : Option Slot) (o : Occurrence)
    (place : Option Slot) (m : NodeId) (hm : .code place m ∈ o.segments s slot) :
    ⟨m, place⟩ ∈ preorder slot o ∧ (s.get m).kind = Node.codeKind := by
  cases o with
  | mk n cs =>
    rw [segments] at hm
    split at hm
    · rename_i hkind
      cases List.mem_singleton.mp hm
      exact ⟨List.mem_cons_self, hkind⟩
    · split at hm
      · simp only [List.cons_append, List.mem_cons, List.mem_append, reduceCtorEq, false_or,
          List.not_mem_nil, or_false] at hm
        obtain ⟨hv, hkind⟩ := mem_preorderAll_of_code s n 0 cs place m hm
        rw [preorder]
        exact ⟨List.mem_cons_of_mem _ hv, hkind⟩
      · cases List.mem_singleton.mp hm

/-- The places of code below the children are those of visited code objects. -/
theorem mem_preorderAll_of_code (s : Store) (parent : NodeId) (index : Nat)
    (cs : List Occurrence) (place : Option Slot) (m : NodeId)
    (hm : .code place m ∈ segmentsAll s parent index cs) :
    ⟨m, place⟩ ∈ preorderAll parent index cs ∧ (s.get m).kind = Node.codeKind := by
  cases cs with
  | nil => cases hm
  | cons o rest =>
    rw [segmentsAll, List.mem_append] at hm
    rw [preorderAll, List.mem_append]
    rcases hm with hm | hm
    · obtain ⟨hv, hkind⟩ := mem_preorder_of_code s (some ⟨parent, index⟩) o place m hm
      exact ⟨.inl hv, hkind⟩
    · obtain ⟨hv, hkind⟩ := mem_preorderAll_of_code s parent (index + 1) rest place m hm
      exact ⟨.inr hv, hkind⟩

end

private theorem markupAll_append (a b : List Node) :
    Node.markupAll (a ++ b) = Node.markupAll a ++ Node.markupAll b := by
  induction a with
  | nil => rfl
  | cons node rest ih =>
    rw [List.cons_append, Node.markupAll, ih, Node.markupAll, List.append_assoc]

private theorem markupAll_html (parts : List String) :
    Node.markupAll (parts.map Node.html) =
      parts.flatMap fun part => Segment.inLines part.toList := by
  induction parts with
  | nil => rfl
  | cons part rest ih =>
    rw [List.map_cons, Node.markupAll, ih, List.flatMap_cons, Node.html, Node.markup, if_neg,
      ← Segment.closeLine_eq_inLines]
    · rfl
    · decide

mutual

/-- The markup of a tree with bundles is its row of segments, filled with these. -/
theorem markup_rewrite (s : Store) (bundle : Slot → Option (List String)) (slot : Option Slot)
    (o : Occurrence) (hslot : slot.bind bundle = none)
    (hcode : ∀ v ∈ preorder slot o, v.slot.bind bundle ≠ none →
      (s.get v.node).kind = Node.codeKind) :
    (o.rewrite s bundle).markup = (o.segments s slot).flatMap (·.text s bundle) := by
  cases o with
  | mk n cs =>
    have hbelow : ∀ v ∈ preorderAll n 0 cs, v.slot.bind bundle ≠ none →
        (s.get v.node).kind = Node.codeKind := by
      intro v hv
      apply hcode
      rw [preorder]
      exact List.mem_cons_of_mem _ hv
    rw [rewrite, segments, Node.markup.eq_def]
    dsimp only
    split
    · rw [List.flatMap_singleton, Segment.text, hslot]
    · cases (s.get n).children with
      | none =>
        rw [List.flatMap_singleton, Segment.text, ← Segment.closeLine_eq_inLines]
        rfl
      | some ids =>
        rw [Option.map_some]
        dsimp only
        rw [markupAll_rewriteAll s bundle n 0 cs hbelow, List.cons_append, List.flatMap_cons,
          List.flatMap_append, List.flatMap_singleton, List.append_assoc]
        rfl

/-- The markup of the children of a tree with bundles is their row of segments, filled with
these. -/
theorem markupAll_rewriteAll (s : Store) (bundle : Slot → Option (List String)) (parent : NodeId)
    (index : Nat) (cs : List Occurrence)
    (hcode : ∀ v ∈ preorderAll parent index cs, v.slot.bind bundle ≠ none →
      (s.get v.node).kind = Node.codeKind) :
    Node.markupAll (rewriteAll s bundle parent index cs) =
      (segmentsAll s parent index cs).flatMap (·.text s bundle) := by
  cases cs with
  | nil => rfl
  | cons o rest =>
    rw [preorderAll] at hcode
    have hrest := markupAll_rewriteAll s bundle parent (index + 1) rest fun v hv =>
      hcode v (List.mem_append_right _ hv)
    rw [rewriteAll, segmentsAll, markupAll_append, List.flatMap_append, hrest]
    congr 1
    cases hb : bundle ⟨parent, index⟩ with
    | none =>
      have ho := markup_rewrite s bundle (some ⟨parent, index⟩) o hb fun v hv =>
        hcode v (List.mem_append_left _ hv)
      rw [← ho]
      exact List.append_nil _
    | some parts =>
      have hkind := hcode _ (List.mem_append_left _ (mem_preorder_self _ o)) (by
        rw [Option.bind_some, hb]
        exact Option.some_ne_none parts)
      rw [segments_of_code s _ o hkind, List.flatMap_singleton, Segment.text, Option.bind_some, hb]
      exact markupAll_html parts

end

end Occurrence

namespace Store

/-- The segments of a document. -/
def segments (s : Store) (root : NodeId) : List Segment := (s.unfold root).segments s none

/-- The markup of a tree is its row of segments with the code as elements. -/
theorem IsTree.markup_tree (s : Store) (root : NodeId) (ht : s.IsTree root) :
    (s.tree root).markup = (s.segments root).flatMap (·.text s fun _ => none) := by
  rw [IsTree.tree_eq s root ht, segments]
  apply Occurrence.markup_rewrite _ _ _ _ rfl
  intro v _ hv
  exact (hv (Option.bind_fun_none _)).elim

/-- The markup of a tree in which code gave way to bundles is the row of segments of the old tree,
filled with the bundles. -/
theorem Rewritten.markup_tree (before after : Store) (done : Replaced)
    (h : before.Rewritten done after) (root : NodeId) (ht : before.IsTree root)
    (hcode : ∀ n slot, ⟨n, some slot⟩ ∈ before.visits root → done.texts? slot ≠ none →
      (before.get n).kind = Node.codeKind) :
    (after.tree root).markup = (before.segments root).flatMap (·.text before done.texts?) := by
  rw [Rewritten.tree before after done h root ht, segments]
  apply Occurrence.markup_rewrite _ _ _ _ rfl
  intro v hv hne
  obtain ⟨n, slot⟩ := v
  rw [← Occurrence.visits_eq_preorder, ← visits] at hv
  cases slot with
  | none => exact (hne rfl).elim
  | some slot => exact hcode n slot hv hne

end Store

end CodeHighlight
