import CodeHighlight.Proofs.Block.Agreement
import CodeHighlight.Proofs.Block.Markup

/-!
# What directives show

Of the directives of a block only what they say of its lines is shown: the marks of every line, and
the numbers. The style sheet has a rule for a mark exactly if a line of the markup carries it, so
that a mark outside the block leaves no trace.
-/

namespace CodeHighlight

/-! ## Directives within the lines -/

namespace Directives

/-- The directives say the same of the first lines of a block. An absent set marks as little as an
empty one. A focus without lines blurs nothing, and any other blurs the lines that it leaves out. -/
structure AgreeOn (lines : Nat) (d e : Directives) : Prop where
  numbering : d.numbering = e.numbering
  highlighted : ∀ line : Int, 1 ≤ line → line ≤ lines →
    CodeLine.marked d.highlightedLines line = CodeLine.marked e.highlightedLines line
  added : ∀ line : Int, 1 ≤ line → line ≤ lines →
    CodeLine.marked (d.diff.bind (·.added)) line = CodeLine.marked (e.diff.bind (·.added)) line
  removed : ∀ line : Int, 1 ≤ line → line ≤ lines →
    CodeLine.marked (d.diff.bind (·.removed)) line = CodeLine.marked (e.diff.bind (·.removed)) line
  focus : ((∀ s ∈ d.focus, s.isEmpty = true) ∧ ∀ s ∈ e.focus, s.isEmpty = true) ∨
    ∃ s t, d.focus = some s ∧ e.focus = some t ∧ s.isEmpty = false ∧ t.isEmpty = false ∧
      ∀ line : Int, 1 ≤ line → line ≤ lines → s.contains line = t.contains line

end Directives

namespace CodeLine

private theorem any_focus_of_isEmpty (focus : Option LineSet) (h : ∀ s ∈ focus, s.isEmpty = true)
    (line : Int) : (focus.any fun s => !s.isEmpty && !s.contains line) = false := by
  cases focus with
  | none => rfl
  | some s => rw [Option.any_some, h s rfl, Bool.not_true, Bool.false_and]

/-- A line has the same marks by directives that say the same of it. -/
theorem marksOf_eq {lines : Nat} {d e : Directives} (h : d.AgreeOn lines e) (line : Int)
    (hfirst : 1 ≤ line) (hlast : line ≤ lines) : marksOf d line = marksOf e line := by
  have hfocus : (d.focus.any fun s => !s.isEmpty && !s.contains line) =
      e.focus.any fun s => !s.isEmpty && !s.contains line := by
    rcases h.focus with ⟨hd, he⟩ | ⟨s, t, hd, he, hs, ht, hsame⟩
    · rw [any_focus_of_isEmpty _ hd, any_focus_of_isEmpty _ he]
    · rw [hd, he, Option.any_some, Option.any_some, hs, ht, hsame line hfirst hlast]
  unfold marksOf
  rw [h.highlighted line hfirst hlast, h.added line hfirst hlast, h.removed line hfirst hlast,
    hfocus]

/-- A source has the same lines by directives that say the same of as many lines as it has. -/
theorem ofSource_eq (source : List Char) {d e : Directives}
    (h : d.AgreeOn (Text.splitAt '\n' source).length e) :
    ofSource source d = ofSource source e := by
  refine List.map_congr_left fun p hp => ?_
  obtain ⟨text, index⟩ := p
  have hindex := List.snd_lt_of_mem_zipIdx hp
  have hmarks := marksOf_eq h (index + 1) (by omega) (by omega)
  change CodeLine.mk _ _ _ = CodeLine.mk _ _ _
  rw [h.numbering, hmarks]

/-- A source has a line, so that a number is shown exactly if lines are numbered. -/
theorem any_number_ofSource (source : List Char) (d : Directives) :
    ((ofSource source d).any fun line => line.number.isSome) = d.numbering.isSome := by
  have hne := Text.splitAt_ne_nil '\n' source
  rw [ofSource, List.any_map]
  cases hnumbering : d.numbering with
  | none => simp [ofText, hnumbering]
  | some n =>
    cases hlines : Text.splitAt '\n' source with
    | nil => exact absurd hlines hne
    | cons first rest => simp [ofText, hnumbering]

end CodeLine

namespace Bundle

/-- A source is rendered the same by directives that give the same lines. -/
theorem ofRanges_eq (theme : Theme) (label language : String) (source : List Char)
    (d e : Directives) (ranges : RangeGroups)
    (h : CodeLine.ofSource source d = CodeLine.ofSource source e) :
    ofRanges theme label language source d ranges =
      ofRanges theme label language source e ranges := by
  simp only [ofRanges, h]

/-- A block is rendered the same by directives that say the same of its lines. -/
theorem render_eq (registry : LexerRegistry) (gallery : Theme.Gallery)
    (code language theme label : String) (d e : Directives)
    (h : d.AgreeOn (Text.splitAt '\n' (CodeLine.normalize code.toList)).length e) :
    render registry ⟨code, language, theme, label, d⟩ gallery =
      render registry ⟨code, language, theme, label, e⟩ gallery := by
  have hlines := CodeLine.ofSource_eq (CodeLine.normalize code.toList) h
  unfold render
  simp only [ofRanges_eq _ _ _ _ d e _ hlines]

end Bundle

/-! ## Classes in the markup -/

namespace Markup

/-- The classes of a span. -/
def Part.spanClasses (p : Part) : List (List Char) :=
  match p.tag with
  | .opening name attributes =>
    if name = .span then
      (attributes.filter (·.1 = .classes)).flatMap fun a => Text.splitAt ' ' a.2
    else []
  | .closing _ => []

end Markup

namespace Block

/-- The classes of a line's span. -/
def lineClasses (line : CodeLine) : List (List Char) :=
  "line".toList :: line.marks.map fun mark => mark.className.toList

private theorem not_mem_lineClasses (line : CodeLine) : ∀ name ∈ lineClasses line, ' ' ∉ name := by
  rw [lineClasses, List.forall_mem_cons, List.forall_mem_map]
  refine ⟨by decide, fun mark _ => ?_⟩
  cases mark <;> decide

private theorem splitAt_classes (line : CodeLine) :
    Text.splitAt ' ' (classes line) = lineClasses line :=
  Text.splitAt_joinWith ' ' (lineClasses line) (List.cons_ne_nil _ _) (not_mem_lineClasses line)

private theorem spanClasses_line (label : List Char) (index : Nat) (line : CodeLine)
    (text : List Char) :
    Markup.Part.spanClasses ⟨.opening .span [(.id, lineId label index), (.classes, classes line)],
      text⟩ = lineClasses line := by
  rw [← splitAt_classes]
  exact List.append_nil _

private theorem spanClasses_number (text : List Char) :
    Markup.Part.spanClasses ⟨.opening .span [(.classes, "line-number".toList)], text⟩ =
      ["line-number".toList] := by
  change Text.splitAt ' ' "line-number".toList ++ [] = _
  decide

/-- The end of a span has no classes. -/
theorem spanClasses_closing (name : Markup.Name) (text : List Char) :
    Markup.Part.spanClasses ⟨.closing name, text⟩ = [] := rfl

section

variable (P : List (List Char) → Prop) (hnil : ¬P [])

include hnil

/-- The spans of a line are its own and that of its number, if it shows one. -/
theorem exists_lineParts (label : List Char) (index : Nat) (line : CodeLine) :
    (∃ part ∈ lineParts label index line, P part.spanClasses) ↔
      P (lineClasses line) ∨ line.number.isSome = true ∧ P ["line-number".toList] := by
  cases hn : line.number with
  | none =>
    simp only [lineParts, hn, List.mem_singleton, exists_eq_left, spanClasses_line,
      Option.isSome_none, Bool.false_eq_true, false_and, or_false]
  | some n =>
    simp only [lineParts, hn, List.mem_cons, List.not_mem_nil, or_false, exists_eq_or_imp,
      exists_eq_left, spanClasses_line, spanClasses_number, spanClasses_closing, hnil,
      Option.isSome_some, true_and]

/-- The spans of lines are those of each of them. -/
theorem exists_linesParts (label : List Char) (lines : List (CodeLine × Nat)) :
    (∃ part ∈ linesParts label lines, P part.spanClasses) ↔
      ∃ p ∈ lines, P (lineClasses p.1) ∨ p.1.number.isSome = true ∧ P ["line-number".toList] := by
  have hend (behind : List Char) : ¬P (lineEnd behind).spanClasses := hnil
  fun_induction linesParts label lines with
  | case1 => simp only [List.not_mem_nil, false_and, exists_false]
  | case2 line index =>
    simp only [List.mem_append, List.mem_singleton, or_and_right, exists_or, exists_eq_left, hend,
      or_false, exists_lineParts P hnil]
  | case3 line index rest hrest ih =>
    simp only [List.mem_append, List.mem_cons, or_and_right, exists_or, exists_eq_left, hend,
      false_or, exists_lineParts P hnil, ih]

/-- The spans of a block are those of its lines. -/
theorem exists_parts (label language : List Char) (lines : List CodeLine) :
    (∃ part ∈ parts label language lines, P part.spanClasses) ↔
      ∃ line ∈ lines, P (lineClasses line) ∨
        line.number.isSome = true ∧ P ["line-number".toList] := by
  -- Only spans count: the tags around the lines have no classes of spans.
  have hpre (attributes : List (Markup.Name × List Char)) :
      ¬P (Markup.Part.spanClasses ⟨.opening .pre attributes, []⟩) := hnil
  have hcode (attributes : List (Markup.Name × List Char)) :
      ¬P (Markup.Part.spanClasses ⟨.opening .code attributes, []⟩) := hnil
  have hlines (Q : CodeLine → Prop) :
      (∃ p ∈ lines.zipIdx, Q p.1) ↔ ∃ line ∈ lines, Q line := by
    have hmap := List.zipIdx_map_fst 0 lines
    constructor
    · rintro ⟨p, hp, hQ⟩
      exact ⟨p.1, hmap ▸ List.mem_map_of_mem hp, hQ⟩
    · rintro ⟨line, hline, hQ⟩
      rw [← hmap] at hline
      obtain ⟨p, hp, rfl⟩ := List.mem_map.mp hline
      exact ⟨p, hp, hQ⟩
  rw [← hlines fun line =>
    P (lineClasses line) ∨ line.number.isSome = true ∧ P ["line-number".toList]]
  simp only [parts, List.mem_append, List.mem_cons, List.not_mem_nil, or_and_right, exists_or,
    exists_eq_left, hpre, hcode, spanClasses_closing, hnil, false_or,
    or_false, exists_linesParts P hnil]

end

/-! ## Rules and classes -/

/-- A line's span carries a class. -/
def LineCarries (parts : List Markup.Part) (name : String) : Prop :=
  ∃ part ∈ parts, "line".toList ∈ part.spanClasses ∧ name.toList ∈ part.spanClasses

/-- A number is shown. -/
def ShowsNumber (parts : List Markup.Part) : Prop :=
  ∃ part ∈ parts, "line-number".toList ∈ part.spanClasses

/-- A rule of a sheet selects this in the block's element. -/
def Selects (rules : List SheetRule) (selector : String) : Prop :=
  ∃ rule ∈ rules, rule.selector? = some selector.toList

private theorem className_mem_lineClasses (line : CodeLine) (mark : LineMark) :
    mark.className.toList ∈ lineClasses line ↔ mark ∈ line.marks := by
  have hline : mark.className.toList ≠ "line".toList := by cases mark <;> decide
  have hinjective (other : LineMark) (h : other.className.toList = mark.className.toList) :
      other = mark := by
    revert h
    cases other <;> cases mark <;> decide
  rw [lineClasses, List.mem_cons, List.mem_map]
  constructor
  · rintro (h | ⟨other, hother, h⟩)
    · exact absurd h hline
    · exact hinjective other h ▸ hother
  · exact fun h => .inr ⟨mark, h, rfl⟩

/-- A line's span in a block carries the class of a mark exactly if a line carries the mark. -/
theorem lineCarries_parts (label language : List Char) (lines : List CodeLine) (mark : LineMark) :
    LineCarries (parts label language lines) mark.className ↔ carries lines mark = true := by
  have hnumber : "line".toList ∉ ["line-number".toList] := by decide
  rw [LineCarries, exists_parts (fun names => "line".toList ∈ names ∧ mark.className.toList ∈ names)
    fun h => absurd h.1 List.not_mem_nil, carries, List.any_eq_true]
  refine exists_congr fun line => and_congr_right fun _ => ?_
  rw [className_mem_lineClasses, List.contains_iff_mem]
  constructor
  · rintro (⟨-, h⟩ | ⟨-, h, -⟩)
    · exact h
    · exact absurd h hnumber
  · exact fun h => .inl ⟨List.mem_cons_self, h⟩

/-- A block shows a number exactly if a line has one. -/
theorem showsNumber_parts (label language : List Char) (lines : List CodeLine) :
    ShowsNumber (parts label language lines) ↔
      (lines.any fun line => line.number.isSome) = true := by
  have hline (line : CodeLine) : "line-number".toList ∉ lineClasses line := by
    rw [lineClasses, List.mem_cons, List.mem_map]
    rintro (h | ⟨mark, -, h⟩)
    · exact absurd h (by decide)
    · revert h
      cases mark <;> decide
  rw [ShowsNumber, exists_parts (fun names => "line-number".toList ∈ names) List.not_mem_nil,
    List.any_eq_true]
  refine exists_congr fun line => and_congr_right fun _ => ?_
  constructor
  · rintro (h | ⟨h, -⟩)
    · exact absurd h (hline line)
    · exact h
  · exact fun h => .inr ⟨h, List.mem_cons_self⟩

/-- What the rules for the lines of a block select. -/
def lineSelectors (lines : List CodeLine) : List String :=
  (if carries lines .highlighted then [" .line.highlighted "] else []) ++
  (if carries lines .diff then [" .line.diff.add ", " .line.diff.remove "] else []) ++
  (if carries lines .blurred then [" .line.blurred "] else []) ++
  (if lines.any fun line => line.number.isSome then [" .line-number "] else [])

private theorem map_selector_elementEntries (theme : Theme) (lines : List CodeLine) :
    (elementEntries theme lines).map Entry.selector = " " :: lineSelectors lines := by
  unfold elementEntries lineEntries lineSelectors
  simp only [List.map_cons, List.map_append, apply_ite (List.map Entry.selector), List.map_nil]

/-- Which rules for lines a sheet has, and which classes the spans of the markup have. -/
structure Matches (rules : List SheetRule) (parts : List Markup.Part) : Prop where
  highlighted : Selects rules " .line.highlighted " ↔ LineCarries parts "highlighted"
  added : Selects rules " .line.diff.add " ↔ LineCarries parts "diff"
  removed : Selects rules " .line.diff.remove " ↔ LineCarries parts "diff"
  blurred : Selects rules " .line.blurred " ↔ LineCarries parts "blurred"
  numbers : Selects rules " .line-number " ↔ ShowsNumber parts

/-- The rules of a block's sheet match the classes of its markup. -/
theorem matches_parts (theme : Theme) (htheme : theme.IsOneLine) (label language : List Char)
    (lines : List CodeLine) (keys : List String) :
    Matches ((elementEntries theme lines).map Entry.rule ++ keys.map (rangesRule theme))
      (parts label language lines) := by
  have hmark (selector : String) (mark : LineMark)
      (h : selector ∈ " " :: lineSelectors lines ↔ carries lines mark = true) :
      Selects ((elementEntries theme lines).map Entry.rule ++ keys.map (rangesRule theme))
          selector ↔ LineCarries (parts label language lines) mark.className := by
    rw [lineCarries_parts, ← h, ← map_selector_elementEntries theme]
    exact exists_selector?_iff theme htheme lines keys selector
  constructor
  · exact hmark _ .highlighted (by simp [lineSelectors])
  · exact hmark _ .diff (by simp [lineSelectors])
  · exact hmark _ .diff (by simp [lineSelectors])
  · exact hmark _ .blurred (by simp [lineSelectors])
  · have hnumber : " .line-number " ∈ " " :: lineSelectors lines ↔
        (lines.any fun line => line.number.isSome) = true := by simp [lineSelectors]
    rw [showsNumber_parts, ← hnumber, ← map_selector_elementEntries theme]
    exact exists_selector?_iff theme htheme lines keys _

end Block

private theorem RangeGroups.not_mem_of_mem_keys (tokens : List Token) (key : String)
    (h : key ∈ (ofTokens tokens).keys) : ')' ∉ key.toList := by
  obtain ⟨group, hgroup, rfl⟩ := List.mem_map.mp h
  obtain ⟨token, -, htoken⟩ := exists_key_of_mem_ofTokens tokens group hgroup
  exact TokenKind.not_mem_of_key? token.kind group.1 htoken

namespace Bundle

/-- The rules for lines in the sheet of a bundle match the classes in its markup. -/
theorem matches_of_render (registry : LexerRegistry) (gallery : Theme.Gallery)
    (request : RenderRequest) (bundle : Bundle)
    (h : render registry request gallery = .ok bundle) :
    ∃ rules parts, Block.readSheet? request.label bundle.style.toList = some rules ∧
      Markup.read? bundle.markup.toList = some parts ∧ Block.Matches rules parts ∧
      (Block.ShowsNumber parts ↔ request.directives.numbering.isSome = true) := by
  obtain ⟨-, hread, -⟩ := reads_of_render registry gallery request bundle h
  obtain ⟨theme, tokens, markup, htheme, htokens, hmarkup, rfl⟩ :=
    made_of_render registry gallery request bundle h
  have hplain := gallery.oneLine request.theme theme htheme
  refine ⟨_, _, Block.readSheet?_entries theme hplain request.label _ _
    (RangeGroups.not_mem_of_mem_keys tokens), hread, Block.matches_parts theme hplain _ _ _ _, ?_⟩
  rw [Block.showsNumber_parts, CodeLine.any_number_ofSource]

/-- Of its directives a block shows only what they say of its lines. Directives that say the same of
as many lines as the block has give the same outcome. The style sheet of every bundle has a rule for
a mark exactly if a line's span carries its class, and one for numbers exactly if they are shown. -/
theorem render_shows_lines (registry : LexerRegistry) (gallery : Theme.Gallery) :
    (∀ (code language theme label : String) (d e : Directives),
      d.AgreeOn (Text.splitAt '\n' (CodeLine.normalize code.toList)).length e →
      render registry ⟨code, language, theme, label, d⟩ gallery =
        render registry ⟨code, language, theme, label, e⟩ gallery) ∧
    ∀ (request : RenderRequest) (bundle : Bundle), render registry request gallery = .ok bundle →
      ∃ rules parts, Block.readSheet? request.label bundle.style.toList = some rules ∧
        Markup.read? bundle.markup.toList = some parts ∧ Block.Matches rules parts ∧
        (Block.ShowsNumber parts ↔ request.directives.numbering.isSome = true) :=
  ⟨render_eq registry gallery, matches_of_render registry gallery⟩

/-- Directives with a malformed selector, and with marks behind the first line. -/
def wideDirectives : Directives where
  highlighted := some "1;9"
  diff := some { added := some ⟨[⟨7, 8⟩]⟩, removed := some .empty }
  focus := some ⟨[⟨1, 1⟩, ⟨9, 9⟩]⟩

/-- Directives that say the same of the first line. -/
def narrowDirectives : Directives where
  focus := some ⟨[⟨1, 1⟩]⟩

/-- Marks behind the only line of a block leave no trace. -/
theorem render_shows_lines_word :
    wideDirectives.AgreeOn (Text.splitAt '\n' (CodeLine.normalize "a".toList)).length
      narrowDirectives ∧
    ∃ bundle, render wordRegistry ⟨"a", "word", "monokai", "hl-1", wideDirectives⟩ = .ok bundle ∧
      render wordRegistry ⟨"a", "word", "monokai", "hl-1", narrowDirectives⟩ = .ok bundle ∧
      ∃ rules parts, Block.readSheet? "hl-1" bundle.style.toList = some rules ∧
        Markup.read? bundle.markup.toList = some parts ∧ Block.Matches rules parts ∧
        (Block.ShowsNumber parts ↔ wideDirectives.numbering.isSome = true) := by
  have hlength : (Text.splitAt '\n' (CodeLine.normalize "a".toList)).length = 1 := by decide
  have hline (line : Int) (hfirst : 1 ≤ line) (hlast : line ≤ (1 : Nat)) : line = 1 := by omega
  have hagree : wideDirectives.AgreeOn (Text.splitAt '\n' (CodeLine.normalize "a".toList)).length
      narrowDirectives := by
    rw [hlength]
    refine ⟨rfl, ?_, ?_, ?_, .inr ⟨_, _, rfl, rfl, rfl, rfl, ?_⟩⟩
    all_goals
      intro line hfirst hlast
      rw [hline line hfirst hlast]
      decide +kernel
  have hok :
      (render wordRegistry ⟨"a", "word", "monokai", "hl-1", wideDirectives⟩).isOk = true := by
    decide +kernel
  cases h : render wordRegistry ⟨"a", "word", "monokai", "hl-1", wideDirectives⟩ with
  | error fault =>
    rw [h] at hok
    cases hok
  | ok bundle =>
    have hsame := (render_shows_lines wordRegistry .bundled).1 "a" "word" "monokai" "hl-1" _ _ hagree
    have hmatches := (render_shows_lines wordRegistry .bundled).2 _ bundle h
    exact ⟨hagree, bundle, rfl, hsame.symm.trans h, hmatches⟩

end Bundle

end CodeHighlight
