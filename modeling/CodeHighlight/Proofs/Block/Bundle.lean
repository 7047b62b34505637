import CodeHighlight.Block.Bundle
import CodeHighlight.Proofs.Block.Pieces

/-!
# Ranges and shown lines

A bundle holds ranges for the text that the lexer reads and lines of the text that is shown. Both
drop a byte order mark and unify the line breaks, one after the other, so the two texts are the same
unless the code begins with two marks: the lexer drops the second one, which is shown. Up to that
every range in the script marks, in the line that it names, the piece that the lexer read there.
-/

namespace CodeHighlight

open Text (Position)

namespace Text

/-- The code begins with two byte order marks. -/
def DoublyMarked (code : List Char) : Prop := [byteOrderMark, byteOrderMark] <+: code

private theorem unifyBreaks_mark (rest : List Char) :
    unifyBreaks (byteOrderMark :: rest) = byteOrderMark :: unifyBreaks rest := by
  rw [unifyBreaks]
  · rfl
  · intro _ he
    exact absurd he (by decide)

private theorem head?_unifyBreaks (text : List Char) :
    (unifyBreaks text).head? = some byteOrderMark ↔ text.head? = some byteOrderMark := by
  fun_induction unifyBreaks text with
  | case1 => rfl
  | case2 rest => simp [byteOrderMark]
  | case3 c rest h =>
    rw [List.head?_cons, List.head?_cons, Option.some.injEq, Option.some.injEq]
    by_cases hc : c = '\r'
    · rw [if_pos hc, hc]
      decide
    · rw [if_neg hc]

/-- A text without a mark at the front is left as it is. -/
theorem dropMark_of_head? (text : List Char) (h : text.head? ≠ some byteOrderMark) :
    dropMark text = text := by
  cases text with
  | nil => rfl
  | cons c rest =>
    rw [dropMark, if_neg]
    intro hc
    exact h (congrArg some hc)

/-- A mark at the front is dropped. -/
theorem eq_cons_dropMark (text : List Char) (h : text.head? = some byteOrderMark) :
    text = byteOrderMark :: dropMark text := by
  cases text with
  | nil => cases h
  | cons c rest =>
    rw [List.head?_cons, Option.some.injEq] at h
    rw [dropMark, if_pos h, h]

/-- A text is left as it is exactly if no mark stands at the front. -/
theorem dropMark_eq_self (text : List Char) :
    dropMark text = text ↔ text.head? ≠ some byteOrderMark := by
  constructor
  · intro h hm
    have hlength := congrArg List.length (eq_cons_dropMark text hm)
    rw [h, List.length_cons] at hlength
    omega
  · exact dropMark_of_head? text

private theorem mem_of_mem_dropMark (text : List Char) (c : Char) (h : c ∈ dropMark text) :
    c ∈ text := by
  cases text with
  | nil => exact h
  | cons d rest =>
    rw [dropMark] at h
    split at h
    · exact List.mem_cons_of_mem _ h
    · exact h

end Text

namespace CodeLine

/-- The text that is shown begins with a byte order mark exactly if the code begins with two. -/
theorem head?_normalize (code : List Char) :
    (normalize code).head? = some Text.byteOrderMark ↔ Text.DoublyMarked code := by
  cases code with
  | nil => simp [normalize, Text.unifyBreaks, Text.dropMark, Text.DoublyMarked]
  | cons c rest =>
    rw [normalize, Text.DoublyMarked]
    by_cases hc : c = Text.byteOrderMark
    · subst c
      rw [Text.unifyBreaks_mark, Text.dropMark, if_pos rfl, Text.head?_unifyBreaks,
        List.cons_prefix_cons, List.singleton_prefix_iff_head?_eq_some]
      simp
    · have hhead : (Text.unifyBreaks (c :: rest)).head? ≠ some Text.byteOrderMark := by
        rw [Ne, Text.head?_unifyBreaks, List.head?_cons, Option.some.injEq]
        exact hc
      rw [Text.dropMark_of_head? _ hhead, List.cons_prefix_cons]
      constructor
      · intro h
        exact absurd h hhead
      · rintro ⟨he, -⟩
        exact absurd he.symm hc

private theorem not_mem_normalize (code : List Char) : '\r' ∉ normalize code := by
  intro h
  exact Text.not_mem_unifyBreaks code (Text.mem_of_mem_dropMark _ _ h)

/-- The lines that are shown are those of the shown text. -/
theorem map_text_ofSource (source : List Char) (d : Directives) :
    (ofSource source d).map text = Text.splitAt '\n' source := by
  rw [ofSource, List.map_map]
  exact List.zipIdx_map_fst _ _

end CodeLine

/-- What a lexer reads of the text that is shown: all of it, but not a byte order mark. -/
theorem Lexer.prepare_normalize (code : List Char) :
    Lexer.prepare (CodeLine.normalize code) = Text.dropMark (CodeLine.normalize code) := by
  rw [Lexer.prepare, Text.unifyBreaks_of_not_mem]
  intro h
  exact CodeLine.not_mem_normalize code (Text.mem_of_mem_dropMark _ _ h)

/-- A range marks, in the line that it names, the piece that tokens have there under a key. -/
def LineRange.Marks (r : LineRange) (lines : List (List Char)) (tokens : List Token)
    (key : String) : Prop :=
  ∃ line, lines[r.line]? = some line ∧ r.first < r.last ∧
    r.last ≤ (Text.codeUnits line).length ∧
    ∃ earlier token later before piece after, tokens = earlier ++ token :: later ∧
      token.kind.key? = some key ∧ token.text = before ++ piece ++ after ∧
      Position.after {} (Token.texts earlier ++ before) = ⟨r.line, r.first⟩ ∧
      Text.slice line r.first r.last = Text.codeUnits piece

/-- Ranges of tokens mark their pieces in the lines of the tokens' text. -/
theorem RangeGroups.marks_of_mem (tokens : List Token) (key : String) (ranges : List LineRange)
    (r : LineRange) (hg : (key, ranges) ∈ (RangeGroups.ofTokens tokens).groups) (hr : r ∈ ranges) :
    r.Marks (Text.splitAt '\n' (Token.texts tokens)) tokens key := by
  obtain ⟨p, hp, hkey, rfl⟩ := RangeGroups.mem_ofTokens tokens key ranges r hg hr
  obtain ⟨earlier, token, later, before, after, htokens, htoken, htext, hstands⟩ :=
    Piece.ofTokens_spec tokens p hp
  have hwhole : Token.texts tokens =
      (Token.texts earlier ++ before) ++ p.text ++ (after ++ Token.texts later) := by
    rw [htokens, Token.texts, List.flatMap_append, List.flatMap_cons, htext]
    simp only [Token.texts, List.append_assoc]
  obtain ⟨line, hline, hlength, hslice⟩ := Text.exists_line_slice (Token.texts earlier ++ before)
    p.text (after ++ Token.texts later) hstands.inLine
  rw [← hwhole, hstands.begins] at hline
  rw [hstands.begins, ← hstands.ends] at hlength hslice
  have hpos : 0 < Text.units p.text :=
    Nat.pos_of_ne_zero fun h => hstands.nonempty (Text.units_eq_zero.mp h)
  refine ⟨line, hline, ?_, hlength, earlier, token, later, before, p.text, after, htokens, ?_,
    htext, hstands.begins, hslice⟩
  · rw [hstands.ends]
    omega
  · rw [htoken, hkey]

namespace Bundle

/-- What a bundle is made of: the theme with the requested name, the tokens of the shown text, and
the markup of its lines. -/
theorem made_of_render (registry : LexerRegistry) (gallery : Theme.Gallery)
    (request : RenderRequest) (bundle : Bundle)
    (h : render registry request gallery = .ok bundle) :
    ∃ theme tokens markup,
      gallery.find? request.theme = some theme ∧
      (registry.lexerFor request.language).tokens (CodeLine.normalize request.code.toList) =
        .ok tokens ∧
      Block.markup request.label.toList request.language.toList
        (CodeLine.ofSource (CodeLine.normalize request.code.toList) request.directives) =
        .ok markup ∧
      bundle = {
        markup := String.ofList markup
        style := Block.style theme request.label
          (CodeLine.ofSource (CodeLine.normalize request.code.toList) request.directives)
          (RangeGroups.ofTokens tokens).keys
        script := String.ofList (Block.script theme request.label (.ofTokens tokens)) } := by
  rw [render] at h
  cases htheme : gallery.find? request.theme with
  | none =>
    rw [htheme] at h
    cases h
  | some theme =>
    rw [htheme] at h
    dsimp only at h
    cases htokens : (registry.lexerFor request.language).tokens
        (CodeLine.normalize request.code.toList) with
    | error cause =>
      rw [htokens] at h
      cases h
    | ok tokens =>
      rw [htokens] at h
      dsimp only at h
      rw [ofRanges] at h
      cases hmarkup : Block.markup request.label.toList request.language.toList
          (CodeLine.ofSource (CodeLine.normalize request.code.toList) request.directives) with
      | error fault =>
        rw [hmarkup] at h
        cases h
      | ok markup =>
        rw [hmarkup] at h
        cases h
        exact ⟨theme, tokens, markup, rfl, rfl, rfl, rfl⟩

/-- A bundle is made of the tokens of the shown text. -/
theorem parts_of_render (registry : LexerRegistry) (gallery : Theme.Gallery)
    (request : RenderRequest) (bundle : Bundle)
    (h : render registry request gallery = .ok bundle) :
    ∃ theme tokens,
      (registry.lexerFor request.language).tokens (CodeLine.normalize request.code.toList) =
        .ok tokens ∧
      Block.markup request.label.toList request.language.toList
        (CodeLine.ofSource (CodeLine.normalize request.code.toList) request.directives) =
        .ok bundle.markup.toList ∧
      bundle.script.toList = Block.script theme request.label (.ofTokens tokens) := by
  obtain ⟨theme, tokens, markup, -, htokens, hmarkup, rfl⟩ :=
    made_of_render registry gallery request bundle h
  refine ⟨theme, tokens, htokens, ?_, ?_⟩
  · rw [hmarkup, String.toList_ofList]
  · rw [String.toList_ofList]

/-- How the ranges of a bundle fit the lines that it shows. -/
structure Fits (registry : LexerRegistry) (request : RenderRequest) (bundle : Bundle)
    (theme : Theme) (tokens : List Token) : Prop where
  /-- The lexer reads the shown text. -/
  lexed : (registry.lexerFor request.language).tokens (CodeLine.normalize request.code.toList) =
    .ok tokens
  /-- The markup has a span for each line of the shown text. -/
  markup : Block.markup request.label.toList request.language.toList
    (CodeLine.ofSource (CodeLine.normalize request.code.toList) request.directives) =
    .ok bundle.markup.toList
  /-- The script holds the ranges of the tokens. -/
  script : bundle.script.toList = Block.script theme request.label (.ofTokens tokens)
  /-- What is read is what is shown, unless the code begins with two byte order marks. -/
  same_text : Token.texts tokens = CodeLine.normalize request.code.toList ↔
    ¬Text.DoublyMarked request.code.toList
  /-- With two marks the second is shown and not read. -/
  shifted : Text.DoublyMarked request.code.toList →
    CodeLine.normalize request.code.toList = Text.byteOrderMark :: Token.texts tokens
  /-- Every range in the script marks a piece in the lines that are read, and in the lines that are
  shown unless the code begins with two byte order marks. -/
  marks : ∀ members name value,
    Block.rangesValue theme request.label (.ofTokens tokens) = .obj members →
    (name, value) ∈ members → ∃ (key : String) (ranges : List LineRange),
      name = Block.rangeName request.label key ∧ value = .arr (ranges.map Block.rangeValue) ∧
      ∀ r ∈ ranges, r.Marks (Text.splitAt '\n' (Token.texts tokens)) tokens key ∧
        (¬Text.DoublyMarked request.code.toList →
          r.Marks ((CodeLine.ofSource (CodeLine.normalize request.code.toList)
            request.directives).map CodeLine.text) tokens key)

/-- With a lexer whose tokens make up the text that it reads, every bundle fits: its ranges mark the
lexer's pieces in the shown lines, unless the code begins with two byte order marks. -/
theorem fits_of_render (registry : LexerRegistry) (gallery : Theme.Gallery)
    (request : RenderRequest) (bundle : Bundle)
    (faithful : ∀ source tokens, (registry.lexerFor request.language).tokens source = .ok tokens →
      Token.texts tokens = Lexer.prepare source)
    (h : render registry request gallery = .ok bundle) :
    ∃ theme tokens, bundle.Fits registry request theme tokens := by
  obtain ⟨theme, tokens, hlexed, hmarkup, hscript⟩ := parts_of_render registry gallery request bundle h
  have hread := faithful _ tokens hlexed
  rw [Lexer.prepare_normalize] at hread
  have hsame : Token.texts tokens = CodeLine.normalize request.code.toList ↔
      ¬Text.DoublyMarked request.code.toList := by
    rw [hread, Text.dropMark_eq_self, Ne, CodeLine.head?_normalize]
  refine ⟨theme, tokens, hlexed, hmarkup, hscript, hsame, ?_, ?_⟩
  · intro hdouble
    rw [hread]
    exact Text.eq_cons_dropMark _ ((CodeLine.head?_normalize _).mpr hdouble)
  · intro members name value hvalue hmem
    rw [Block.rangesValue, Json.obj.injEq] at hvalue
    subst members
    obtain ⟨⟨key, ranges⟩, hgroup, he⟩ := List.mem_map.mp hmem
    cases he
    refine ⟨key, ranges, rfl, rfl, ?_⟩
    intro r hr
    have hmarks := RangeGroups.marks_of_mem tokens key ranges r (List.mem_filter.mp hgroup).1 hr
    refine ⟨hmarks, ?_⟩
    intro hsingle
    rwa [CodeLine.map_text_ofSource, ← hsame.mpr hsingle]

/-- A lexer that reads the whole text as one keyword. -/
def wordLexer : Lexer :=
  .ofFunction "WordLexer" "Word" ["word"] fun text => [⟨.keyword, text⟩]

/-- A registry with that lexer. -/
def wordRegistry : LexerRegistry := ⟨[("word", wordLexer)]⟩

/-- Asks for a word. -/
def wordRequest (code : String) : RenderRequest where
  code := code
  language := "word"
  theme := "monokai"
  label := "hl-1"
  directives := {}

private theorem faithful_word (source : List Char) (tokens : List Token)
    (h : wordLexer.tokens source = .ok tokens) : Token.texts tokens = Lexer.prepare source := by
  cases h
  exact List.append_nil _

/-- A code of two lines, with a carriage return between them. -/
theorem fits_two_lines :
    ∃ bundle, render wordRegistry (wordRequest "a\r\nb") = .ok bundle ∧
      ∃ theme tokens, bundle.Fits wordRegistry (wordRequest "a\r\nb") theme tokens := by
  obtain ⟨bundle, h⟩ : ∃ bundle, render wordRegistry (wordRequest "a\r\nb") = .ok bundle :=
    ⟨_, rfl⟩
  exact ⟨bundle, h, fits_of_render wordRegistry .bundled _ bundle faithful_word h⟩

/-- A code with two byte order marks: the lexer reads one character, and the range for it covers the
mark that is shown before that character. -/
theorem not_fits_two_marks :
    ∃ bundle, render wordRegistry (wordRequest "\uFEFF\uFEFFx") = .ok bundle ∧
      (wordLexer.tokens (CodeLine.normalize "\uFEFF\uFEFFx".toList)) =
        .ok [⟨.keyword, ['x']⟩] ∧
      bundle.script.toList = Block.script .monokai "hl-1" (.ofTokens [⟨.keyword, ['x']⟩]) ∧
      Block.rangesValue .monokai "hl-1" (.ofTokens [⟨.keyword, ['x']⟩]) =
        .obj [("hl-1-k", .arr [Block.rangeValue ⟨0, 0, 1⟩])] ∧
      (CodeLine.ofSource (CodeLine.normalize "\uFEFF\uFEFFx".toList) {}).map CodeLine.text =
        [[Text.byteOrderMark, 'x']] ∧
      Text.slice [Text.byteOrderMark, 'x'] 0 1 ≠ Text.codeUnits ['x'] := by
  refine ⟨_, rfl, rfl, ?_, rfl, rfl, by decide⟩
  rw [String.toList_ofList]
  rfl

end Bundle

end CodeHighlight
