import CodeHighlight.Proofs.Yaml.Keeps
import CodeHighlight.Yaml.Value.Reader

/-!
# Faults of values

Which documents are well formed and have no value: a scalar may not be what its tag promises, a
mapping may be given for a time, or the `=` keys that stand for a mapping may lead round in a
circle. Everything else that is refused is malformed. Mappings that take over entries of others put
no such fault into a document.
-/

namespace CodeHighlight.Yaml

namespace Nodes

/-- The node is a mapping. -/
def IsMapping (nodes : Nodes) (number : Nat) : Prop :=
  ∃ pairs, nodes.content? number = some (.mapping pairs)

/-! ## Changed nodes -/

private theorem map_modify {α : Type} (nodes : Nodes) (number place : Nat) (f : Node → Node)
    (g : Node → α) : (nodes.modify number f)[place]?.map g =
      if number = place then nodes[place]?.map fun node => g (f node) else nodes[place]?.map g := by
  rw [Array.getElem?_modify]
  split
  · rw [Option.map_map]
    rfl
  · rfl

theorem content?_fill (nodes : Nodes) (number place : Nat) (content : Content) :
    (nodes.fill number content).content? place =
      if number = place then (nodes.content? place).map fun _ => content
      else nodes.content? place := by
  rw [content?, content?, Option.map_map]
  exact map_modify nodes number place _ _

@[simp]
theorem tag?_fill (nodes : Nodes) (number place : Nat) (content : Content) :
    (nodes.fill number content).tag? place = nodes.tag? place :=
  (map_modify nodes number place _ _).trans (ite_self _)

@[simp]
theorem content?_retag (nodes : Nodes) (number place : Nat) (tag : Tag) :
    (nodes.retag number tag).content? place = nodes.content? place :=
  (map_modify nodes number place _ _).trans (ite_self _)

theorem tag?_retag (nodes : Nodes) (number place : Nat) (tag : Tag) :
    (nodes.retag number tag).tag? place =
      if number = place then (nodes.tag? place).map fun _ => tag else nodes.tag? place := by
  rw [tag?, tag?, Option.map_map]
  exact map_modify nodes number place _ _

/-- The nodes are those of a document, up to entries of mappings and to keys that became texts. -/
structure ComesFrom (nodes original : Nodes) : Prop where
  tag : ∀ number tag, nodes.tag? number = some tag →
    original.tag? number = some tag ∨ tag = .text ∧ original.tag? number = some .value
  scalar : ∀ number text, nodes.content? number = some (.scalar text) →
    original.content? number = some (.scalar text)
  mapping : ∀ number, nodes.IsMapping number ↔ original.IsMapping number

namespace ComesFrom

theorem refl (nodes : Nodes) : nodes.ComesFrom nodes where
  tag := fun _ _ h => Or.inl h
  scalar := fun _ _ h => h
  mapping := fun _ => Iff.rfl

variable {nodes original : Nodes} (h : nodes.ComesFrom original)

include h

/-- A mapping may get other entries. -/
theorem fill (number : Nat) (hnumber : nodes.IsMapping number) (pairs : List (Nat × Nat)) :
    (nodes.fill number (.mapping pairs)).ComesFrom original where
  tag := fun place tag => by
    rw [tag?_fill]
    exact h.tag place tag
  scalar := fun place text => by
    rw [content?_fill]
    split
    · cases nodes.content? place with
      | none => exact nofun
      | some content => exact nofun
    · exact h.scalar place text
  mapping := fun place => by
    rw [← h.mapping place, IsMapping, content?_fill]
    split
    · next hplace =>
      obtain ⟨old, hold⟩ := hplace ▸ hnumber
      rw [hold]
      exact iff_of_true ⟨pairs, rfl⟩ ⟨old, hold⟩
    · exact Iff.rfl

/-- A `=` key may become a text. -/
theorem retag (number : Nat) (hnumber : nodes.tag? number = some .value) :
    (nodes.retag number .text).ComesFrom original where
  tag := fun place tag => by
    rw [tag?_retag]
    split
    · next hplace =>
      subst hplace
      rw [hnumber]
      rintro ⟨⟩
      exact Or.inr ⟨rfl, (h.tag number .value hnumber).resolve_right nofun⟩
    · exact h.tag place tag
  scalar := fun place text => by
    rw [content?_retag]
    exact h.scalar place text
  mapping := fun place => by
    rw [← h.mapping place, IsMapping, content?_retag]
    exact Iff.rfl

end ComesFrom

/-! ## Merging -/

section

variable (original : Nodes)

/-- A change leaves what comes from a document, and fails only for a malformed one. -/
def Leaves {α : Type} (m : Change α) : Prop :=
  Keeps (fun nodes : Nodes => nodes.ComesFrom original) (· = .malformed) m

private theorem isMapping_of_mem_pairs (nodes : Nodes) (number : Nat) (entry : Nat × Nat)
    (h : (nodes.pairs number).contains entry) : nodes.IsMapping number := by
  unfold pairs at h
  split at h
  · next pairs hcontent => exact ⟨pairs, hcontent⟩
  · cases h

section

variable (merge : Nat → Change Unit)
  (hmerge : ∀ number, original.IsMapping number → Leaves original (merge number))

include hmerge

private theorem leaves_takenOne (number : Nat) : Leaves original (takenOne merge number) := by
  refine Keeps.get_bind fun nodes hnodes => ?_
  split
  · next pairs hcontent =>
    exact (hmerge number ((hnodes.mapping number).mp ⟨pairs, hcontent⟩)).bind fun _ =>
      Keeps.get.bind fun _ => .pure _
  · exact .throw _ rfl

private theorem leaves_taken (number : Nat) : Leaves original (taken merge number) := by
  refine Keeps.get.bind fun nodes => ?_
  split
  · exact (Keeps.mapM _ _ (leaves_takenOne original merge hmerge)).bind fun _ => .pure _
  · exact leaves_takenOne original merge hmerge number

private theorem leaves_takenFor (number : Nat) (entry : Nat × Nat) :
    Leaves original (takenFor merge number entry) := by
  refine Keeps.get_bind fun nodes hnodes => ?_
  split
  · split
    · next hentry =>
      have hnumber := isMapping_of_mem_pairs nodes number entry hentry
      exact .bind (.set _ (hnodes.fill number hnumber _)) fun _ =>
        leaves_taken original merge hmerge entry.2
    · exact .pure []
  · next htag => exact .bind (.set _ (hnodes.retag entry.1 htag)) fun _ => .pure []
  · exact .pure []

end

/-- Whatever mappings take over, the nodes still come from their document. -/
theorem leaves_merge (depth number : Nat) (h : original.IsMapping number) :
    Leaves original (merge depth number) := by
  induction depth generalizing number with
  | zero => exact .throw _ rfl
  | succ depth ih =>
    refine Keeps.get.bind fun nodes => ?_
    refine (Keeps.mapM _ _ (leaves_takenFor original _ ih number)).bind fun taken => ?_
    exact .modify _ fun nodes hnodes => hnodes.fill number ((hnodes.mapping number).mpr h) _

end

end Nodes

/-- The tags that promise a value which not all characters have. -/
def Tag.promising : List Tag := [.bool, .int, .float, .timestamp]

namespace ValueReader

/-- One of the nodes has no value, for this fault. -/
inductive HasFault (nodes : Nodes) : Fault → Prop where
  /-- The tag promises what the characters are not. -/
  | scalar (number place : Nat) (tag : Tag) (text : List Char) (fault : Fault)
    (htag : nodes.tag? number = some tag) (hpromising : tag ∈ Tag.promising)
    (htext : nodes.content? place = some (.scalar text))
    (hread : readScalar tag text = .error fault) : HasFault nodes fault
  /-- A mapping is given for a time. -/
  | time (number : Nat) (htag : nodes.tag? number = some .timestamp)
    (hmapping : nodes.IsMapping number) : HasFault nodes .mappingAsTime
  /-- A mapping is given for characters, and what stands for it has no end. -/
  | endless (number : Nat) (tag : Tag) (htag : nodes.tag? number = some tag)
    (hscalar : isScalarTag tag ∨ tag = .value) (hmapping : nodes.IsMapping number) :
    HasFault nodes .endless

/-! ## Characters -/

private theorem readBytes_error (text : List Char) (fault : Fault)
    (h : readBytes text = .error fault) : fault = .malformed := by
  unfold readBytes at h
  split at h
  · split at h
    · cases h
    · cases h; rfl
  · cases h; rfl

/-- Only tags that promise a number, a truth value or a time have faults of their own. -/
theorem readScalar_error (tag : Tag) (text : List Char) (fault : Fault)
    (h : readScalar tag text = .error fault) (hfault : fault ≠ .malformed) :
    tag ∈ Tag.promising := by
  unfold readScalar at h
  split at h
  case h_5 => exact absurd (readBytes_error _ _ h) hfault
  case h_8 => cases h; exact absurd rfl hfault
  all_goals first | decide | cases h

/-- A node has no characters for want of an end only if it is a mapping. -/
private theorem characters_error (nodes : Nodes) (fuel number : Nat) (fault : Fault)
    (h : characters nodes fuel number = .error fault) (hfault : fault ≠ .malformed) :
    fault = .endless ∧ (fuel ≠ 0 → nodes.IsMapping number) := by
  induction fuel generalizing number with
  | zero =>
    cases h
    exact ⟨rfl, fun hne => absurd rfl hne⟩
  | succ fuel ih =>
    rw [characters] at h
    split at h
    · cases h
    · next pairs hcontent =>
      split at h
      · next key value hfind => exact ⟨(ih value h).1, fun _ => ⟨pairs, hcontent⟩⟩
      · cases h
        exact absurd rfl hfault
    · cases h
      exact absurd rfl hfault

/-- The characters of a node are those of a scalar. -/
private theorem characters_ok (nodes : Nodes) (fuel number : Nat) (text : List Char)
    (h : characters nodes fuel number = .ok text) :
    ∃ place, nodes.content? place = some (.scalar text) := by
  induction fuel generalizing number with
  | zero => cases h
  | succ fuel ih =>
    rw [characters] at h
    split at h
    · next hcontent =>
      cases h
      exact ⟨number, hcontent⟩
    · split at h
      · next key value hfind => exact ih value h
      · cases h
    · cases h

/-- What keeps a node from being read was in its document already. -/
theorem readCharacters_error (nodes original : Nodes) (horigin : nodes.ComesFrom original)
    (tag : Tag) (number : Nat) (htag : nodes.tag? number = some tag) (hscalar : isScalarTag tag)
    (fault : Fault) (h : readCharacters nodes tag number = .error fault)
    (hfault : fault ≠ .malformed) : HasFault original fault := by
  unfold readCharacters at h
  cases hread : characters nodes (nodes.size + 1) number with
  | error said =>
    rw [hread] at h
    cases h
    obtain ⟨rfl, hmapping⟩ := characters_error nodes _ number fault hread hfault
    have hnumber := (horigin.mapping number).mp (hmapping (Nat.succ_ne_zero _))
    rcases horigin.tag number tag htag with hsame | ⟨-, hvalue⟩
    · exact .endless number tag hsame (Or.inl hscalar) hnumber
    · exact .endless number .value hvalue (Or.inr rfl) hnumber
  | ok text =>
    have horiginal (hpromising : tag ∈ Tag.promising) : original.tag? number = some tag := by
      refine (horigin.tag number tag htag).resolve_right fun hchanged => ?_
      rw [hchanged.1] at hpromising
      exact absurd hpromising (by decide)
    rw [hread] at h
    dsimp only [Bind.bind, Except.bind] at h
    split at h
    · next pairs hcontent =>
      cases h
      exact .time number (horiginal (by decide)) ((horigin.mapping number).mp ⟨pairs, hcontent⟩)
    · next tag _ _ _ =>
      have hpromising := readScalar_error tag text fault h hfault
      obtain ⟨place, hplace⟩ := characters_ok nodes _ number text hread
      exact .scalar number place tag text fault (horiginal hpromising) hpromising
        (horigin.scalar place text hplace) h

/-! ## Readings -/

section

variable (original : Nodes)

/-- A reading leaves nodes that come from a document, and fails only for what it has. -/
def Reads {α : Type} (m : Reader α) : Prop :=
  Keeps (fun s : State => s.nodes.ComesFrom original)
    (fun fault => fault = .malformed ∨ HasFault original fault) m

private theorem reads_refuse {α : Type} : Reads original (refuse : Reader α) :=
  .throw _ (Or.inl rfl)

private theorem reads_keep (number : Nat) (object : Object) :
    Reads original (keep number object) :=
  .bind (.modify _ fun _ hs => hs) fun _ => .pure object

private theorem reads_object (number : Nat) : Reads original (object number) := by
  refine Keeps.get_bind fun s hs => ?_
  split
  · exact .pure _
  · exact reads_refuse original
  · next tag _ htag =>
    refine .ite (.bind (.modify _ fun _ hs => hs) fun _ => reads_keep original _ _) ?_
    split
    · next hscalar =>
      refine .lift_bind (fun value _ => reads_keep original _ _) fun fault hfault => ?_
      by_cases hmalformed : fault = .malformed
      · exact Or.inl hmalformed
      · exact Or.inr (readCharacters_error s.nodes original hs tag number htag hscalar fault
          hfault hmalformed)
    · exact reads_refuse original

private theorem reads_pair (number : Nat) : Reads original (pair number) := by
  refine Keeps.get.bind fun s => ?_
  split
  · exact (reads_object original _).bind fun _ => (reads_object original _).bind fun _ => .pure _
  · exact reads_refuse original

private theorem reads_entry (entries : List (Value × Object)) (added : Nat × Nat) :
    Reads original (entry entries added) := by
  refine (reads_object original _).bind fun key => ?_
  split
  · exact (reads_object original _).bind fun _ => .pure _
  · exact reads_refuse original

private theorem reads_entries (number : Nat) (h : original.IsMapping number) :
    Reads original (entries number) := by
  refine Keeps.get_bind fun s hs => .lift_bind (fun merged hmerged => ?_) fun fault hfault => ?_
  all_goals
    have hleaves := Nodes.leaves_merge original (s.nodes.entryCount + 1) number h s.nodes hs
  · rw [hmerged] at hleaves
    exact .bind (.modify _ fun _ _ => hleaves) fun _ =>
      Keeps.foldlM _ _ (reads_entry original) []
  · rw [hfault] at hleaves
    exact Or.inl hleaves

private theorem reads_filling (number : Nat) : Reads original (filling number) := by
  refine Keeps.get_bind fun s hs => ?_
  have hmapping (pairs : List (Nat × Nat))
      (h : s.nodes.content? number = some (.mapping pairs)) : original.IsMapping number :=
    (hs.mapping number).mp ⟨pairs, h⟩
  dsimp only
  split
  · exact (Keeps.mapM _ _ (reads_object original)).bind fun _ => .pure _
  · exact (Keeps.mapM _ _ (reads_pair original)).bind fun _ => .pure _
  · exact (Keeps.mapM _ _ (reads_pair original)).bind fun _ => .pure _
  · next hcontent =>
    exact (reads_entries original number (hmapping _ hcontent)).bind fun _ => .pure _
  · next hcontent =>
    exact (reads_entries original number (hmapping _ hcontent)).bind fun _ => .pure _
  · exact reads_refuse original

/-- Filling collections leaves nodes that come from a document, whatever is met meanwhile. -/
theorem reads_fillFrom (fuel place : Nat) : Reads original (fillFrom fuel place) := by
  induction fuel generalizing place with
  | zero => exact .pure ()
  | succ fuel ih =>
    refine Keeps.get.bind fun s => ?_
    split
    · exact .pure ()
    · exact (reads_filling original _).bind fun _ => .bind (.modify _ fun _ hs => hs) fun _ =>
        ih (place + 1)

end

end ValueReader

/-- A document without a value is malformed, or has a fault in it. -/
theorem Value.ofDocument_error (document : Document) (fault : Fault)
    (h : Value.ofDocument document = .error fault) (hfault : fault ≠ .malformed) :
    ValueReader.HasFault document.nodes fault := by
  unfold Value.ofDocument at h
  extract_lets size read at h
  have hread : ValueReader.Reads document.nodes read :=
    (ValueReader.reads_object _ _).bind fun _ => (ValueReader.reads_fillFrom _ _ _).bind fun _ =>
      .pure _
  let start : ValueReader.State := {
    nodes := document.nodes
    objects := Array.replicate size none
    fillings := Array.replicate size none }
  have hleaves := hread start (Nodes.ComesFrom.refl document.nodes)
  cases hrun : read.run start with
  | ok result =>
    rw [hrun] at h
    cases h
  | error said =>
    rw [hrun] at h hleaves
    cases h
    exact hleaves.resolve_left hfault

end CodeHighlight.Yaml
