import CodeHighlight.Document.Markup
import CodeHighlight.Proofs.Block.Bundle
import CodeHighlight.Proofs.Text.Numeral
import CodeHighlight.Proofs.Text.Tag

/-!
# Markup that is read again

The markup of a block is a fixed row of tags around label, language and lines, all escaped. So it is
read again as what was written, whatever characters the code, the label and the language hold. The
same holds of the element that a code node is written as when no block takes its place.
-/

namespace CodeHighlight

namespace Markup.Name

/-- Preformatted text. -/
def pre : Name := ⟨['p', 'r', 'e'], by decide, List.all_eq_true.mp rfl⟩

/-- Code. -/
def code : Name := ⟨['c', 'o', 'd', 'e'], by decide, List.all_eq_true.mp rfl⟩

/-- A part of a text. -/
def span : Name := ⟨['s', 'p', 'a', 'n'], by decide, List.all_eq_true.mp rfl⟩

/-- What identifies an element. -/
def id : Name := ⟨['i', 'd'], by decide, List.all_eq_true.mp rfl⟩

/-- The classes of an element. -/
def classes : Name := ⟨['c', 'l', 'a', 's', 's'], by decide, List.all_eq_true.mp rfl⟩

/-- The label of a block. -/
def label : Name :=
  ⟨['d', 'a', 't', 'a', '-', 'f', 'e', 'n', 'c', 'e', 'l', 'i', 'g', 'h', 't'], by decide,
    List.all_eq_true.mp rfl⟩

/-- The language of a block. -/
def language : Name :=
  ⟨['d', 'a', 't', 'a', '-', 'l', 'a', 'n', 'g', 'u', 'a', 'g', 'e'], by decide,
    List.all_eq_true.mp rfl⟩

end Markup.Name

/-! ## Blocks -/

namespace Block

open Markup (Name)

/-- What identifies the span of a line. -/
def lineId (label : List Char) (index : Nat) : List Char :=
  label ++ '-' :: 'L' :: (toString index).toList

/-- The parts of a line up to the end of its text: its span, and a span for the number if it shows
one. -/
def lineParts (label : List Char) (index : Nat) (line : CodeLine) : List Markup.Part :=
  let tag := .opening .span [(.id, lineId label index), (.classes, classes line)]
  match line.number with
  | none => [⟨tag, line.text⟩]
  | some n => [⟨tag, []⟩,
      ⟨.opening .span [(.classes, "line-number".toList)], (toString n).toList⟩,
      ⟨.closing .span, line.text⟩]

/-- The end of a line's span and what stands behind it. -/
def lineEnd (behind : List Char) : Markup.Part := ⟨.closing .span, behind⟩

/-- The parts of lines with a line feed between one and the next. -/
def linesParts (label : List Char) : List (CodeLine × Nat) → List Markup.Part
  | [] => []
  | [(line, index)] => lineParts label index line ++ [lineEnd []]
  | (line, index) :: rest =>
    lineParts label index line ++ lineEnd ['\n'] :: linesParts label rest

/-- The parts of a block. -/
def parts (label language : List Char) (lines : List CodeLine) : List Markup.Part :=
  [⟨.opening .pre [(.classes, "fencelight".toList), (.label, label), (.language, language)], []⟩,
    ⟨.opening .code [(.id, label)], []⟩] ++
  linesParts label lines.zipIdx ++
  [⟨.closing .code, []⟩, ⟨.closing .pre, []⟩]

/-- Parts as they are written inside the markup of a block. -/
def partsText (parts : List Markup.Part) : List Char := Markup.written (parts.map (.map inMarkup))

/-- Parts are written one row behind the other. -/
theorem partsText_append (first second : List Markup.Part) :
    partsText (first ++ second) = partsText first ++ partsText second := by
  simp [partsText, Markup.written]

/-- A digit is written as it is. -/
theorem plain_of_isDigit (c : Char) (h : c.isDigit = true) :
    c ≠ '&' ∧ Text.isMarkup c = false := by
  have hdigit : ∀ d : Char, d.isDigit = false → c ≠ d := by
    rintro d hd rfl
    rw [hd] at h
    cases h
  refine ⟨hdigit '&' rfl, ?_⟩
  simp [Text.isMarkup, hdigit '<' rfl, hdigit '>' rfl, hdigit '"' rfl, hdigit '\'' rfl]

/-- The classes of a line are written as they are. -/
theorem inMarkup_classes (line : CodeLine) : inMarkup (classes line) = classes line := by
  have hline : ∀ c ∈ "line".toList, c ≠ '&' ∧ Text.isMarkup c = false := by
    simp [Text.isMarkup]
  have hmark (mark : LineMark) :
      ∀ c ∈ mark.className.toList, c ≠ '&' ∧ Text.isMarkup c = false := by
    cases mark <;> simp [LineMark.className, Text.isMarkup]
  apply Text.escape_of_plain
  intro c hc
  rcases Text.mem_joinWith _ _ c hc with hblank | ⟨name, hname, hc⟩
  · rw [List.mem_singleton.mp hblank]
    decide
  · rcases List.mem_cons.mp hname with rfl | hname
    · exact hline c hc
    · obtain ⟨mark, -, rfl⟩ := List.mem_map.mp hname
      exact hmark mark c hc

private theorem inMarkup_lineId (label : List Char) (index : Nat) :
    inMarkup (lineId label index) = inMarkup label ++ '-' :: 'L' :: (toString index).toList := by
  rw [inMarkup, lineId, Text.escape_append]
  congr 1
  apply Text.escape_of_plain
  simp only [List.forall_mem_cons]
  refine ⟨by decide, by decide, ?_⟩
  intro c hc
  exact plain_of_isDigit c (Text.isDigit_of_mem_toString index c hc)

private theorem inMarkup_toString (n : Int) :
    inMarkup (toString n).toList = (toString n).toList := by
  apply Text.escape_of_plain
  intro c hc
  rcases Text.eq_or_isDigit_of_mem_toString n c hc with rfl | hdigit
  · decide
  · exact plain_of_isDigit c hdigit

/-- The number of a line is written, if it shows one. -/
def IsWritable (number : Option Int) : Prop := ∀ n ∈ number, Text.Writable n

instance (number : Option Int) : Decidable (IsWritable number) :=
  inferInstanceAs (Decidable (∀ n ∈ number, Text.Writable n))

/-- The span for a line's number, as it is written. -/
def numberText (number : Option Int) : List Char :=
  number.elim [] fun n =>
    "<span class=\"line-number\">".toList ++ (toString n).toList ++ "</span>".toList

private theorem numberSpan_eq (number : Option Int) :
    numberSpan number =
      if IsWritable number then .ok (numberText number) else .error .unwritable := by
  cases number with
  | none => rfl
  | some n =>
    have hn : IsWritable (some n) ↔ Text.Writable n := by simp [IsWritable]
    rw [numberSpan, Text.writeInteger_eq]
    by_cases hwritable : Text.Writable n
    · rw [if_pos hwritable, if_pos (hn.mpr hwritable)]
      rfl
    · rw [if_neg hwritable, if_neg fun h => hwritable (hn.mp h)]
      rfl

/-- A line as it is written. -/
def lineText (label : List Char) (index : Nat) (line : CodeLine) : List Char :=
  lineTag label index line ++ numberText line.number ++ inMarkup line.text ++ "</span>".toList

private theorem lineSpan_eq (label : List Char) (index : Nat) (line : CodeLine) :
    lineSpan label index line =
      if IsWritable line.number then .ok (lineText label index line) else .error .unwritable := by
  rw [lineSpan, numberSpan_eq]
  by_cases h : IsWritable line.number
  · rw [if_pos h, if_pos h]
    rfl
  · rw [if_neg h, if_neg h]
    rfl

/-- The parts of a line make up its text, with what stands behind the line. -/
theorem partsText_line (label : List Char) (index : Nat) (line : CodeLine) (behind : List Char) :
    partsText (lineParts label index line ++ [lineEnd behind]) =
      lineText label index line ++ inMarkup behind := by
  have hid := inMarkup_lineId label index
  have hclasses := inMarkup_classes line
  -- Literals are spelled out first: they are slow to compare.
  cases hnumber : line.number with
  | none =>
    unfold lineText lineTag lineParts
    simp only [String.reduceToList, hnumber, numberText, Option.elim_none]
    generalize toString index = digits at hid
    simp [partsText, lineEnd, Markup.written, Markup.writeAttribute, Name.span, Name.id,
      Name.classes, hid, hclasses]
  | some n =>
    have hempty : inMarkup [] = [] := rfl
    have hclass : inMarkup ['l', 'i', 'n', 'e', '-', 'n', 'u', 'm', 'b', 'e', 'r'] =
        ['l', 'i', 'n', 'e', '-', 'n', 'u', 'm', 'b', 'e', 'r'] := by decide
    have hdigits := inMarkup_toString n
    unfold lineText lineTag lineParts
    simp only [String.reduceToList, hnumber, numberText, Option.elim_some]
    generalize toString index = digits at hid
    generalize toString n = shown at hdigits
    simp [partsText, lineEnd, Markup.written, Markup.writeAttribute, Name.span, Name.id,
      Name.classes, hid, hclasses, hempty, hclass, hdigits]

/-- The parts of lines make up their texts with line feeds between them. -/
theorem partsText_linesParts (label : List Char) (lines : List (CodeLine × Nat)) :
    partsText (linesParts label lines) =
      Text.joinWith ['\n'] (lines.map fun p => lineText label p.2 p.1) := by
  fun_induction linesParts label lines with
  | case1 => rfl
  | case2 line index =>
    rw [partsText_line]
    exact List.append_nil _
  | case3 line index rest hrest ih =>
    have hmore : rest.map (fun p => lineText label p.2 p.1) ≠ [] := by simpa using hrest
    have hfeed : inMarkup ['\n'] = ['\n'] := by decide
    have hline := partsText_line label index line ['\n']
    rw [List.map_cons, Text.joinWith_cons _ _ _ hmore, ← ih, List.append_cons, partsText_append,
      hline, hfeed, List.append_assoc]

/-- The spans of lines are written unless some number has too many digits. -/
theorem mapM_lineSpan (label : List Char) (lines : List (CodeLine × Nat)) :
    (lines.mapM fun p => lineSpan label p.2 p.1) =
      if ∀ p ∈ lines, IsWritable p.1.number then
        .ok (lines.map fun p => lineText label p.2 p.1)
      else .error .unwritable := by
  induction lines with
  | nil => rfl
  | cons p rest ih =>
    have hcons : (∀ q ∈ p :: rest, IsWritable q.1.number) ↔
        IsWritable p.1.number ∧ ∀ q ∈ rest, IsWritable q.1.number := List.forall_mem_cons
    rw [List.mapM_cons, ih, lineSpan_eq]
    by_cases hp : IsWritable p.1.number
    · by_cases hrest : ∀ q ∈ rest, IsWritable q.1.number
      · rw [if_pos hp, if_pos hrest, if_pos (hcons.mpr ⟨hp, hrest⟩)]
        rfl
      · rw [if_pos hp, if_neg hrest, if_neg fun h => hrest (hcons.mp h).2]
        rfl
    · rw [if_neg hp, if_neg fun h => hp (hcons.mp h).1]
      rfl

private theorem partsText_blockTags (label language : List Char) :
    partsText [⟨.opening .pre [(.classes, "fencelight".toList), (.label, label),
        (.language, language)], []⟩, ⟨.opening .code [(.id, label)], []⟩] =
      blockTags label language := by
  have hempty : inMarkup [] = [] := rfl
  have hclass : inMarkup ['f', 'e', 'n', 'c', 'e', 'l', 'i', 'g', 'h', 't'] =
      ['f', 'e', 'n', 'c', 'e', 'l', 'i', 'g', 'h', 't'] := by decide
  unfold blockTags
  simp only [String.reduceToList]
  simp [partsText, Markup.written, Markup.writeAttribute, Name.pre, Name.code, Name.id,
    Name.classes, Name.label, Name.language, hempty, hclass]

/-- A block is written as its parts unless some number has too many digits. -/
theorem markup_eq (label language : List Char) (lines : List CodeLine) :
    markup label language lines =
      if ∀ line ∈ lines, IsWritable line.number then .ok (partsText (parts label language lines))
      else .error .unwritable := by
  have hlines : (∀ p ∈ lines.zipIdx, IsWritable p.1.number) ↔
      ∀ line ∈ lines, IsWritable line.number := by
    have hmap := List.forall_mem_map (f := Prod.fst) (l := lines.zipIdx)
      (P := fun line : CodeLine => IsWritable line.number)
    rw [List.zipIdx_map_fst] at hmap
    exact hmap.symm
  have hclose : partsText [⟨.closing .code, []⟩, ⟨.closing .pre, []⟩] = "</code></pre>".toList := by
    decide
  have hspans := mapM_lineSpan label lines.zipIdx
  unfold markup
  rw [hspans]
  by_cases h : ∀ line ∈ lines, IsWritable line.number
  · rw [if_pos h, if_pos (hlines.mpr h), parts, partsText_append, partsText_append,
      partsText_blockTags, partsText_linesParts, hclose]
    rfl
  · rw [if_neg h, if_neg fun h' => h (hlines.mp h')]
    rfl

end Block

/-- The markup of a bundle is clean, and it is read as the parts of the block around the lines of
the normalized code. -/
theorem Bundle.reads_of_render (registry : LexerRegistry) (gallery : Theme.Gallery)
    (request : RenderRequest) (bundle : Bundle)
    (h : render registry request gallery = .ok bundle) :
    let source := CodeLine.normalize request.code.toList
    let lines := CodeLine.ofSource source request.directives
    Markup.IsClean bundle.markup.toList ∧
      Markup.read? bundle.markup.toList =
        some (Block.parts request.label.toList request.language.toList lines) ∧
      Text.joinWith ['\n'] (lines.map CodeLine.text) = source := by
  obtain ⟨_, _, -, hmarkup, -⟩ := parts_of_render registry gallery request bundle h
  rw [Block.markup_eq] at hmarkup
  split at hmarkup
  · have hread := Markup.read?_written Text.QuoteSpelling.refers_decimal
      (Block.parts request.label.toList request.language.toList
        (CodeLine.ofSource (CodeLine.normalize request.code.toList) request.directives))
    rw [← Except.ok.inj hmarkup]
    refine ⟨hread.1, hread.2, ?_⟩
    rw [CodeLine.map_text_ofSource, Text.joinWith_splitAt]
  · cases hmarkup

/-! ## Code nodes -/

namespace Node

open Markup (Name)

/-- The attributes of the element for code: a class for the language, unless that is blank. -/
def codeAttributes (language : List Char) : List (Name × List Char) :=
  if Text.trim language = [] then []
  else [(.classes, "language-".toList ++ Text.trim language)]

/-- The text of the element for code: the value and a line feed, unless the value is empty. -/
def codeBody (value : List Char) : List Char := if value = [] then [] else value ++ ['\n']

/-- The parts of the element for code. -/
def codeParts (value language : List Char) : List Markup.Part :=
  [⟨.opening .pre [], []⟩, ⟨.opening .code (codeAttributes language), codeBody value⟩,
    ⟨.closing .code, []⟩, ⟨.closing .pre, ['\n']⟩]

private theorem codeText_eq (value : List Char) :
    codeText value = Text.escape .named (codeBody value) := by
  have hempty := Text.escape_eq_nil Text.QuoteSpelling.refers_named value
  rw [codeText, codeBody]
  by_cases h : value = []
  · rw [if_pos h, h]
    rfl
  · have hbody : Text.escape .named value ≠ [] := fun he => h (hempty.mp he)
    have hfeed : Text.escape .named ['\n'] = ['\n'] := by decide
    rw [if_neg h, Text.escape_append, hfeed]
    simp [hbody]

private theorem codeClass_eq (language : List Char) :
    codeClass language = ((codeAttributes language).map fun a =>
      (a.1, Text.escape .named a.2)).flatMap Markup.writeAttribute := by
  have hprefix : Text.escape .named ['l', 'a', 'n', 'g', 'u', 'a', 'g', 'e', '-'] =
      ['l', 'a', 'n', 'g', 'u', 'a', 'g', 'e', '-'] := by decide
  cases h : Text.trim language with
  | nil => simp [codeClass, codeAttributes, h]
  | cons c rest =>
    unfold codeClass codeAttributes
    simp only [h, String.reduceToList]
    rw [if_neg (List.cons_ne_nil c rest), List.map_singleton, List.flatMap_singleton,
      Text.escape_append, hprefix]
    simp [Markup.writeAttribute, Name.classes]

/-- The element for code is written as its parts. -/
theorem codeElement_eq (value language : List Char) :
    codeElement value language =
      Markup.written ((codeParts value language).map (.map (Text.escape .named))) := by
  have hempty : Text.escape .named [] = [] := rfl
  have hfeed : Text.escape .named ['\n'] = ['\n'] := by decide
  unfold codeElement
  simp only [String.reduceToList]
  rw [codeClass_eq, codeText_eq, codeParts]
  generalize Text.escape .named = write at hempty hfeed
  simp [Markup.written, Name.pre, Name.code, List.flatMap_map, hempty, hfeed]

/-- A code node is written as the element for its value and its language. -/
theorem markup_of_kind (node : Node) (h : node.kind = codeKind) :
    node.markup = codeElement (characters node.value) (characters node.language) := by
  obtain ⟨kind, value, language, info, opening, closing, children⟩ := node
  unfold markup
  exact if_pos h

/-- The element for a code node is clean, and it is read as the node's value and language. -/
theorem reads_of_kind (node : Node) (h : node.kind = codeKind) :
    Markup.IsClean node.markup ∧
      Markup.read? node.markup =
        some (codeParts (characters node.value) (characters node.language)) := by
  rw [markup_of_kind node h, codeElement_eq]
  exact Markup.read?_written Text.QuoteSpelling.refers_named _

end Node

/-- Code and language are read again of all that is written for code. The markup of a block holds
the normalized code, line by line, and its language; the element for a code node holds the node's
value with a line feed, and a class for its language. Outside of the tags, and in the values inside
them, neither has an angle bracket or a quotation mark. -/
theorem Markup.reads_back :
    (∀ (registry : LexerRegistry) (gallery : Theme.Gallery) (request : RenderRequest)
        (bundle : Bundle), Bundle.render registry request gallery = .ok bundle →
      let source := CodeLine.normalize request.code.toList
      let lines := CodeLine.ofSource source request.directives
      IsClean bundle.markup.toList ∧
        read? bundle.markup.toList =
          some (Block.parts request.label.toList request.language.toList lines) ∧
        Text.joinWith ['\n'] (lines.map CodeLine.text) = source) ∧
    ∀ node : Node, node.kind = Node.codeKind →
      IsClean node.markup ∧
        read? node.markup =
          some (Node.codeParts (Node.characters node.value) (Node.characters node.language)) :=
  ⟨Bundle.reads_of_render, Node.reads_of_kind⟩

/-- Asks for two numbered lines with a reference, marks and a language that could end a value. -/
def Bundle.hostileRequest : RenderRequest where
  code := "&lt;\r\n<b>'\""
  language := "\"><i>"
  theme := "monokai"
  label := "hl-1"
  directives := { numbering := some 9 }

/-- Marks and references in code and language are read again. -/
theorem Markup.reads_back_hostile :
    ∃ bundle, Bundle.render Bundle.wordRegistry Bundle.hostileRequest = .ok bundle ∧
      IsClean bundle.markup.toList ∧
      read? bundle.markup.toList = some (Block.parts "hl-1".toList "\"><i>".toList
        [⟨"&lt;".toList, some 9, []⟩, ⟨"<b>'\"".toList, some 10, []⟩]) ∧
      IsClean (Node.code "a<b" (some " \"> ")).markup ∧
      read? (Node.code "a<b" (some " \"> ")).markup =
        some (Node.codeParts "a<b".toList " \"> ".toList) := by
  have hok : (Bundle.render Bundle.wordRegistry Bundle.hostileRequest).isOk = true := by
    decide +kernel
  obtain ⟨bundle, h⟩ :
      ∃ bundle, Bundle.render Bundle.wordRegistry Bundle.hostileRequest = .ok bundle := by
    cases h : Bundle.render Bundle.wordRegistry Bundle.hostileRequest with
    | ok bundle => exact ⟨bundle, rfl⟩
    | error fault =>
      rw [h] at hok
      cases hok
  have hblock := Markup.reads_back.1 _ .bundled _ bundle h
  have hnode := Markup.reads_back.2 (Node.code "a<b" (some " \"> ")) rfl
  exact ⟨bundle, h, hblock.1, hblock.2.1, hnode.1, hnode.2⟩

end CodeHighlight
