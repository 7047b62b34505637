import CodeHighlight.Label
import CodeHighlight.Proofs.Block.Agreement
import CodeHighlight.Proofs.Block.Markup
import CodeHighlight.Proofs.Text.Run

/-!
# Labels in bundles

The markup of a block identifies its elements, and its script registers ranges by name, for the
whole page. Both begin with the label of the block, and what stands behind the label does not begin
with a digit. So the number of the label is told by each of them, although one label may be the
beginning of another.
-/

namespace CodeHighlight

/-! ## What a label heads -/

namespace Block

/-- The text is the label, or the label and something behind it that does not begin with a digit. -/
def Headed (label : String) (text : List Char) : Prop :=
  ∃ behind, Text.startsWith Char.isDigit behind = false ∧ text = label.toList ++ behind

/-- A label is headed by itself. -/
theorem headed_self (label : String) : Headed label label.toList :=
  ⟨[], rfl, (List.append_nil _).symm⟩

/-- What identifies a line is headed by the label of the block. -/
theorem headed_lineId (label : String) (index : Nat) :
    Headed label (lineId label.toList index) := ⟨_, rfl, rfl⟩

/-- The name for a key is headed by the label of the block. -/
theorem headed_rangeName (label key : String) : Headed label (rangeName label key).toList := by
  refine ⟨'-' :: key.toList, rfl, ?_⟩
  simp [rangeName]

end Block

namespace LabelCounter

/-- A text is headed by one label. The digits of the number are taken as a whole: they end where the
text behind the label begins. -/
theorem eq_of_headed (c : LabelCounter) {m n : Nat} {text : List Char}
    (hm : Block.Headed (c.label m) text) (hn : Block.Headed (c.label n) text) : m = n := by
  obtain ⟨behind, hbehind, rfl⟩ := hm
  obtain ⟨behind', hbehind', he⟩ := hn
  simp only [label, String.toList_append, List.append_assoc] at he
  have hdigits := congrArg (List.takeWhile Char.isDigit)
    (List.append_cancel_left (List.append_cancel_left he))
  rw [Text.takeWhile_run _ _ _ (Text.isDigit_of_mem_toString m) hbehind,
    Text.takeWhile_run _ _ _ (Text.isDigit_of_mem_toString n) hbehind'] at hdigits
  exact Text.toList_toString_inj m n hdigits

/-- Different numbers have different labels. -/
theorem label_injective (c : LabelCounter) : Function.Injective c.label := by
  intro m n h
  have hn : Block.Headed (c.label n) (c.label m).toList := by
    rw [h]
    exact Block.headed_self (c.label n)
  exact c.eq_of_headed (Block.headed_self (c.label m)) hn

end LabelCounter

/-! ## Elements -/

namespace Markup

/-- The values of a tag for an attribute. -/
def Tag.valuesOf (key : Name) : Tag → List (List Char)
  | .opening _ attributes => attributes.filterMap fun a => if a.1 = key then some a.2 else none
  | .closing _ => []

/-- What identifies the elements in a row of parts. -/
def ids (parts : List Part) : List (List Char) := parts.flatMap fun part => part.tag.valuesOf .id

/-- What identifies the elements of a markup. -/
def ids? (text : List Char) : Option (List (List Char)) := (read? text).map ids

/-- Rows of parts one behind the other. -/
theorem ids_append (first second : List Part) : ids (first ++ second) = ids first ++ ids second :=
  List.flatMap_append

end Markup

namespace Block

/-- Different lines of a block are identified differently. -/
theorem lineId_injective (label : List Char) : Function.Injective (lineId label) := by
  intro first second h
  have htail := List.append_cancel_left h
  exact Text.toList_toString_inj first second (List.cons.inj (List.cons.inj htail).2).2

private theorem ids_lineParts (label : List Char) (index : Nat) (line : CodeLine)
    (behind : List Char) :
    Markup.ids (lineParts label index line ++ [lineEnd behind]) = [lineId label index] := by
  have hclasses : Markup.Name.classes ≠ Markup.Name.id := by decide
  unfold lineParts
  cases line.number with
  | none => simp [Markup.ids, Markup.Tag.valuesOf, lineEnd, hclasses]
  | some n => simp [Markup.ids, Markup.Tag.valuesOf, lineEnd, hclasses]

/-- Each line is identified by its index. -/
theorem ids_linesParts (label : List Char) (lines : List (CodeLine × Nat)) :
    Markup.ids (linesParts label lines) = lines.map fun p => lineId label p.2 := by
  fun_induction linesParts label lines with
  | case1 => rfl
  | case2 line index => exact ids_lineParts label index line []
  | case3 line index rest hrest ih =>
    rw [List.append_cons, Markup.ids_append, ids_lineParts, ih]
    rfl

/-- A block is identified by its label, and its lines by the label and their index. -/
theorem ids_parts (label language : List Char) (lines : List CodeLine) :
    Markup.ids (parts label language lines) =
      label :: (List.range lines.length).map (lineId label) := by
  have hclasses : Markup.Name.classes ≠ Markup.Name.id := by decide
  have hlabel : Markup.Name.label ≠ Markup.Name.id := by decide
  have hlanguage : Markup.Name.language ≠ Markup.Name.id := by decide
  have hindices : lines.zipIdx.map Prod.snd = List.range lines.length := by
    rw [List.zipIdx_map_snd, List.range_eq_range']
  have hlines : Markup.ids (linesParts label lines.zipIdx) =
      (List.range lines.length).map (lineId label) := by
    rw [ids_linesParts, ← hindices, List.map_map]
    rfl
  unfold parts
  generalize "fencelight".toList = name
  rw [Markup.ids_append, Markup.ids_append, hlines]
  simp [Markup.ids, Markup.Tag.valuesOf, hclasses, hlabel, hlanguage]

/-- The keys of the object behind a label. -/
def keysOf? : Json × Json → Option (List String)
  | (_, .obj members) => some (members.map Prod.fst)
  | _ => none

/-- The names under which a script registers ranges. -/
def names? (text : List Char) : Option (List String) := (readScript? text).bind keysOf?

/-- A script registers the coloured keys under their names. -/
theorem names?_script (theme : Theme) (label : String) (ranges : RangeGroups) :
    names? (script theme label ranges) =
      some ((styledKeys theme ranges.keys).map (rangeName label)) := by
  rw [names?, readScript?_script, rangesValue_eq, Option.bind_some, keysOf?,
    map_fst_rangesMembers]

end Block

/-! ## Bundles -/

/-- How the label of a bundle is used: what identifies the elements of its markup, and the names
under which its script registers ranges. -/
structure Bundle.UsesLabel (label : String) (bundle : Bundle) (lines : Nat) (keys : List String) :
    Prop where
  /-- The code is identified by the label, and each line by the label and its index. -/
  ids : Markup.ids? bundle.markup.toList =
    some (label.toList :: (List.range lines).map (Block.lineId label.toList))
  /-- Ranges are registered by the label and a key. -/
  names : Block.names? bundle.script.toList = some (keys.map (Block.rangeName label))
  nodup_keys : keys.Nodup

/-- What identifies elements is headed by the label. -/
theorem Bundle.UsesLabel.headed_ids {label : String} {bundle : Bundle} {lines : Nat}
    {keys : List String} (h : bundle.UsesLabel label lines keys) :
    ∃ ids, Markup.ids? bundle.markup.toList = some ids ∧ ids.Nodup ∧
      ∀ id ∈ ids, Block.Headed label id := by
  refine ⟨_, h.ids, ?_, ?_⟩
  · rw [List.nodup_cons]
    refine ⟨?_, List.nodup_range.map (Block.lineId_injective label.toList)⟩
    intro hmem
    obtain ⟨index, -, he⟩ := List.mem_map.mp hmem
    -- A line's span has a longer text than the label.
    have hlength := congrArg List.length he
    simp [Block.lineId] at hlength
  · rw [List.forall_mem_cons, List.forall_mem_map]
    exact ⟨Block.headed_self label, fun index _ => Block.headed_lineId label index⟩

/-- The names of ranges are headed by the label. -/
theorem Bundle.UsesLabel.headed_names {label : String} {bundle : Bundle} {lines : Nat}
    {keys : List String} (h : bundle.UsesLabel label lines keys) :
    ∃ names, Block.names? bundle.script.toList = some names ∧ names.Nodup ∧
      ∀ name ∈ names, Block.Headed label name.toList := by
  refine ⟨_, h.names, h.nodup_keys.map (Block.rangeName_injective label), ?_⟩
  rw [List.forall_mem_map]
  exact fun key _ => Block.headed_rangeName label key

/-- Every bundle uses the label that was asked for. -/
theorem Bundle.usesLabel_of_render (registry : LexerRegistry) (gallery : Theme.Gallery)
    (request : RenderRequest) (bundle : Bundle)
    (h : render registry request gallery = .ok bundle) :
    ∃ lines keys, bundle.UsesLabel request.label lines keys := by
  have hread := (reads_of_render registry gallery request bundle h).2.1
  obtain ⟨theme, tokens, markup, -, -, -, rfl⟩ := made_of_render registry gallery request bundle h
  have hproper := RangeGroups.isProper_ofTokens tokens
  refine ⟨(CodeLine.ofSource (CodeLine.normalize request.code.toList) request.directives).length,
    Block.styledKeys theme (RangeGroups.ofTokens tokens).keys, ?_, ?_, ?_⟩
  · rw [Markup.ids?, hread, Option.map_some, Block.ids_parts]
  · rw [String.toList_ofList, Block.names?_script]
  · exact hproper.nodup_keys.filter _

end CodeHighlight
