import CodeHighlight.Block.Style
import CodeHighlight.Proofs.Text.Run
import CodeHighlight.Proofs.Text.Split

/-!
# The style sheet of a block, read again

A style sheet is a row of rules, one behind the other: rules for the block's element and rules for
registered ranges. With the label it is read rule by rule, whatever characters the label holds,
since no theme puts a line feed into a rule.
-/

namespace CodeHighlight

/-! ## Themes without line feeds -/

/-- A text of characters among which there is no line feed. A literal is such a text, and its
characters are faster to look through than those that it is decoded to. -/
theorem OneLine.ofList (chars : List Char) (h : '\n' ∉ chars) : OneLine (String.ofList chars) := by
  rwa [OneLine, String.toList_ofList]

/-- Two texts without line feeds. -/
theorem OneLine.append {first second : String} (h : OneLine first) (h' : OneLine second) :
    OneLine (first ++ second) := by
  rw [OneLine, String.toList_append, List.mem_append, not_or]
  exact ⟨h, h'⟩

/-- Texts without line feeds, and between them a text without one. -/
theorem OneLine.intercalate {sep : String} {texts : List String} (hsep : OneLine sep)
    (h : ∀ text ∈ texts, OneLine text) : OneLine (String.intercalate sep texts) := by
  rw [OneLine, Text.toList_intercalate]
  intro hmem
  rcases Text.mem_joinWith _ _ _ hmem with hin | ⟨_, htext, hin⟩
  · exact hsep hin
  · obtain ⟨text, hmem, rfl⟩ := List.mem_map.mp htext
    exact h text hmem hin

namespace TokenStyle

/-- What a declaration sets. -/
theorem mem_declarations (s : TokenStyle) (d : String) (h : d ∈ s.declarations) :
    (∃ c, s.color = some c ∧ d = "color: #" ++ c ++ ";") ∨
      (∃ c, s.background = some c ∧ d = "background-color: #" ++ c ++ ";") ∨
      d = "text-decoration: underline;" := by
  rw [declarations, List.mem_append, List.mem_append, Option.mem_toList, Option.mem_toList,
    Option.map_eq_some_iff, Option.map_eq_some_iff] at h
  rcases h with (⟨c, hc, rfl⟩ | ⟨c, hc, rfl⟩) | h
  · exact .inl ⟨c, hc, rfl⟩
  · exact .inr (.inl ⟨c, hc, rfl⟩)
  · split at h
    · exact .inr (.inr (List.mem_singleton.mp h))
    · cases h

private theorem IsOneLine.declarations {s : TokenStyle} (h : s.IsOneLine) :
    ∀ d ∈ s.declarations, OneLine d := by
  intro d hd
  rcases mem_declarations s d hd with ⟨c, hc, rfl⟩ | ⟨c, hc, rfl⟩ | rfl
  · exact OneLine.append (OneLine.append (.ofList _ (by decide)) (h.1 c hc))
      (.ofList _ (by decide))
  · exact OneLine.append (OneLine.append (.ofList _ (by decide)) (h.2 c hc))
      (.ofList _ (by decide))
  · exact .ofList _ (by decide)

end TokenStyle

namespace Theme

private theorem IsOneLine.style {theme : Theme} (h : theme.IsOneLine) (key : String) :
    (theme.style key).IsOneLine := by
  rw [Theme.style]
  cases hfind : theme.styles.find? fun group => group.1.contains key with
  | none => exact ⟨by simp, by simp⟩
  | some group => exact h.styles group (List.mem_of_find?_eq_some hfind)

/-- The declarations for a key have no line feed. -/
theorem IsOneLine.rule {theme : Theme} (h : theme.IsOneLine) (key : String) :
    OneLine (theme.rule key) :=
  OneLine.intercalate (.ofList _ (by decide)) (h.style key).declarations

/-- The declarations for the block have no line feed. -/
theorem IsOneLine.container {theme : Theme} (h : theme.IsOneLine) : OneLine theme.container := by
  have hfront : OneLine ("background-color: " ++ theme.background ++ ";") :=
    OneLine.append (OneLine.append (.ofList _ (by decide)) h.background) (.ofList _ (by decide))
  apply OneLine.append hfront
  cases htext : theme.text with
  | none => exact .ofList _ (by decide)
  | some c =>
    exact OneLine.append (OneLine.append (.ofList _ (by decide)) (h.text c htext))
      (.ofList _ (by decide))

end Theme

/-! ## Rules -/

namespace Block

/-- A rule of a style sheet. -/
inductive SheetRule where
  /-- For the block's element or a part of it. -/
  | element (body : List Char)
  /-- For the ranges that are registered for a key. -/
  | ranges (key body : List Char)
deriving Repr, DecidableEq

/-- The selector of registered ranges up to their key. -/
def rangesSelector (label : String) : String := "::highlight(" ++ label ++ "-"

/-- The end of a sheet. -/
def sheetEnd : List Char := ['<', '/', 's', 't', 'y', 'l', 'e', '>']

/-- The selector of the block's element begins with the name of the element. -/
theorem exists_scope (label : String) : ∃ rest, (scope label).toList = 'p' :: rest := by
  unfold scope
  rw [String.toList_append, String.toList_append]
  exact ⟨_, rfl⟩

/-- The selector of registered ranges begins with a colon. -/
theorem exists_rangesSelector (label : String) :
    ∃ rest, (rangesSelector label).toList = ':' :: rest := by
  unfold rangesSelector
  rw [String.toList_append, String.toList_append]
  exact ⟨_, rfl⟩

namespace SheetRule

/-- A rule as it is written. -/
def text (label : String) : SheetRule → List Char
  | element body => (scope label).toList ++ body
  | ranges key body => (rangesSelector label).toList ++ (key ++ ')' :: body)

/-- The name that a rule for ranges bears. -/
def name? (label : String) : SheetRule → Option String
  | element _ => none
  | ranges key _ => some (rangeName label (String.ofList key))

/-- What a rule for the block's element selects there, up to the brace before its declarations. -/
def selector? : SheetRule → Option (List Char)
  | element body => some (body.takeWhile (· ≠ '\x7b'))
  | ranges _ _ => none

/-- The first line of a text, and the lines behind it. -/
def line (text : List Char) : List Char × List Char :=
  (text.takeWhile (· ≠ '\n'), (text.dropWhile (· ≠ '\n')).drop 1)

/-- The first rule of a sheet, and the text behind it. -/
def read? (label : String) (text : List Char) : Option (SheetRule × List Char) :=
  match Text.behind? (scope label).toList text with
  | some rest => some (element (line rest).1, (line rest).2)
  | none => do
    let rest ← Text.behind? (rangesSelector label).toList text
    let behind := (rest.dropWhile (· ≠ ')')).drop 1
    return (ranges (rest.takeWhile (· ≠ ')')) (line behind).1, (line behind).2)

/-- The rule takes one line, and its key ends at the closing parenthesis. -/
def IsOneLine : SheetRule → Prop
  | element body => '\n' ∉ body
  | ranges key body => ')' ∉ key ∧ '\n' ∉ body

private theorem line_append (body rest : List Char) (h : '\n' ∉ body) :
    line (body ++ '\n' :: rest) = (body, rest) := by
  have hbody : ∀ c ∈ body, decide (c ≠ '\n') = true := by
    rintro c hc
    rw [decide_eq_true_eq]
    rintro rfl
    exact h hc
  rw [line, Text.takeWhile_run _ body _ hbody rfl, Text.dropWhile_run _ body _ hbody rfl]
  rfl

/-- A rule is read as it was written. -/
theorem read?_text (label : String) (rule : SheetRule) (h : rule.IsOneLine) (rest : List Char) :
    read? label (rule.text label ++ '\n' :: rest) = some (rule, rest) := by
  cases rule with
  | element body =>
    rw [text, List.append_assoc, read?, Text.behind?_append]
    dsimp only
    rw [line_append body rest h]
  | ranges key body =>
    have hkey : ∀ c ∈ key, decide (c ≠ ')') = true := by
      rintro c hc
      rw [decide_eq_true_eq]
      rintro rfl
      exact h.1 hc
    have hother : ∀ more, Text.behind? (scope label).toList
        ((rangesSelector label).toList ++ more) = none := by
      intro more
      obtain ⟨front, hfront⟩ := exists_scope label
      obtain ⟨back, hback⟩ := exists_rangesSelector label
      rw [hfront, hback]
      exact Text.behind?_cons_of_ne 'p' ':' _ _ (by decide)
    rw [text, List.append_assoc, read?, hother]
    simp only [Text.behind?_append, Option.bind_eq_bind, Option.bind_some, Option.pure_def]
    rw [List.append_assoc, List.cons_append,
      Text.takeWhile_run _ key (')' :: (body ++ '\n' :: rest)) hkey rfl,
      Text.dropWhile_run _ key (')' :: (body ++ '\n' :: rest)) hkey rfl, List.drop_one,
      List.tail_cons, line_append body rest h.2]

private theorem text_append_ne (label : String) (rule : SheetRule) (rest : List Char) :
    rule.text label ++ rest ≠ sheetEnd := by
  intro he
  cases rule with
  | element body =>
    obtain ⟨front, hfront⟩ := exists_scope label
    rw [text, hfront] at he
    cases he
  | ranges key body =>
    obtain ⟨front, hfront⟩ := exists_rangesSelector label
    rw [text, hfront] at he
    cases he

end SheetRule

/-! ## Sheets -/

/-- The rules up to the end of a sheet. -/
def readRules? (label : String) : Nat → List Char → Option (List SheetRule)
  | 0, _ => none
  | fuel + 1, text =>
    if text = sheetEnd then some []
    else do
      let (rule, rest) ← SheetRule.read? label text
      let rules ← readRules? label fuel rest
      return rule :: rules

/-- The rules of a style sheet. -/
def readSheet? (label : String) (text : List Char) : Option (List SheetRule) := do
  let rest ← Text.behind? "<style>\n".toList text
  readRules? label (rest.length + 1) rest

/-- Rules as they are written, each on lines of its own. -/
def writtenRules (label : String) (rules : List SheetRule) : List Char :=
  rules.flatMap fun rule => rule.text label ++ ['\n']

/-- Rules are read as they were written. -/
theorem readRules?_written (label : String) (rules : List SheetRule)
    (h : ∀ rule ∈ rules, rule.IsOneLine) (fuel : Nat) (hfuel : rules.length < fuel) :
    readRules? label fuel (writtenRules label rules ++ sheetEnd) = some rules := by
  induction rules generalizing fuel with
  | nil =>
    obtain ⟨fuel, rfl⟩ : ∃ k, fuel = k + 1 := ⟨fuel - 1, by omega⟩
    exact if_pos rfl
  | cons rule rest ih =>
    obtain ⟨fuel, rfl⟩ : ∃ k, fuel = k + 1 := ⟨fuel - 1, by omega⟩
    have hrest := ih (fun r hr => h r (List.mem_cons_of_mem _ hr)) fuel (by simpa using hfuel)
    have hwritten : writtenRules label (rule :: rest) ++ sheetEnd =
        rule.text label ++ '\n' :: (writtenRules label rest ++ sheetEnd) := by
      simp [writtenRules]
    have hrule := rule.read?_text label (h rule List.mem_cons_self)
      (writtenRules label rest ++ sheetEnd)
    rw [hwritten, readRules?, if_neg (rule.text_append_ne label _), hrule]
    simp only [Option.bind_eq_bind, Option.bind_some, hrest, Option.pure_def]

/-- A sheet is read as the rules that it was written with. -/
theorem readSheet?_written (label : String) (rules : List SheetRule)
    (h : ∀ rule ∈ rules, rule.IsOneLine) :
    readSheet? label ("<style>\n".toList ++ (writtenRules label rules ++ sheetEnd)) =
      some rules := by
  have hlength : rules.length ≤ (writtenRules label rules).length := by
    induction rules with
    | nil => exact Nat.le_refl 0
    | cons rule rest ih =>
      have hrest := ih fun r hr => h r (List.mem_cons_of_mem _ hr)
      have hwritten : (writtenRules label (rule :: rest)).length =
          (rule.text label).length + 1 + (writtenRules label rest).length := by
        simp only [writtenRules, List.flatMap_cons, List.length_append, List.length_singleton]
      rw [hwritten, List.length_cons]
      omega
  rw [readSheet?, Text.behind?_append]
  apply readRules?_written label rules h
  rw [List.length_append]
  omega

/-- The rule for the ranges of a key. -/
def rangesRule (theme : Theme) (key : String) : SheetRule :=
  .ranges key.toList (" \x7b " ++ theme.rule key ++ " \x7d").toList

/-- The rule for the ranges of a key is written as such. -/
theorem toList_tokenRule (theme : Theme) (label key : String) :
    (tokenRule theme label key).toList = (rangesRule theme key).text label := by
  have hsplit : ") \x7b " = ")" ++ " \x7b " := by decide
  have hrule : tokenRule theme label key =
      rangesSelector label ++ (key ++ (")" ++ (" \x7b " ++ theme.rule key ++ " \x7d"))) := by
    unfold tokenRule rangesSelector rangeName
    rw [hsplit]
    simp only [String.append_assoc]
  have hclose : ")".toList = [')'] := by decide
  rw [hrule, String.toList_append, String.toList_append, String.toList_append, hclose]
  rfl

/-- A rule for the block's element: what it selects there, and its declarations. -/
structure Entry where
  selector : String
  declarations : String

namespace Entry

/-- The rule of a sheet. -/
def rule (e : Entry) : SheetRule := .element (e.selector ++ e.declarations).toList

/-- The entry takes one line, and a brace stands only before its declarations. -/
structure IsPlain (e : Entry) : Prop where
  selector : OneLine e.selector
  declarations : OneLine e.declarations
  no_brace : '\x7b' ∉ e.selector.toList
  brace : e.declarations.toList.head? = some '\x7b'

/-- A selector of plain characters before a text in braces. -/
theorem IsPlain.ofList (chars : List Char) {body : String}
    (h : '\n' ∉ chars ∧ '\x7b' ∉ chars) (hbody : OneLine body) :
    IsPlain ⟨String.ofList chars, "\x7b" ++ body⟩ where
  selector := .ofList chars h.1
  declarations := OneLine.append (.ofList _ (by decide)) hbody
  no_brace := by
    rw [String.toList_ofList]
    exact h.2
  brace := by
    rw [String.toList_append]
    rfl

/-- The selector is what stands before the brace. -/
theorem IsPlain.selector?_rule {e : Entry} (h : e.IsPlain) :
    e.rule.selector? = some e.selector.toList := by
  have hfront : ∀ c ∈ e.selector.toList, decide (c ≠ '\x7b') = true := by
    rintro c hc
    rw [decide_eq_true_eq]
    rintro rfl
    exact h.no_brace hc
  have hbrace := h.brace
  cases hdeclarations : e.declarations.toList with
  | nil =>
    rw [hdeclarations] at hbrace
    cases hbrace
  | cons c rest =>
    rw [hdeclarations, List.head?_cons, Option.some.injEq] at hbrace
    rw [rule, SheetRule.selector?, String.toList_append, hdeclarations, hbrace,
      Text.takeWhile_run _ e.selector.toList ('\x7b' :: rest) hfront rfl]

end Entry

/-- The rules for the lines of a block that are not left out. -/
def lineEntries (theme : Theme) (lines : List CodeLine) : List Entry :=
  (if carries lines .highlighted then
    [⟨" .line.highlighted ", "\x7b" ++ (" background-color: " ++ theme.highlight ++ "; \x7d")⟩]
    else []) ++
  (if carries lines .diff then
    [⟨" .line.diff.add ", "\x7b" ++ " background-color: rgba(46, 160, 67, 0.2); \x7d"⟩,
      ⟨" .line.diff.remove ", "\x7b" ++ " background-color: rgba(248, 81, 73, 0.2); \x7d"⟩]
    else []) ++
  (if carries lines .blurred then
    [⟨" .line.blurred ", "\x7b" ++ " opacity: 0.5; filter: blur(0.5px); \x7d"⟩] else []) ++
  (if lines.any fun line => line.number.isSome then
    [⟨" .line-number ", "\x7b" ++ (" display: inline-block; min-width: 2.5em; margin-right: 1em; "
      ++ "text-align: right; user-select: none; color: " ++ theme.lineNumber ++ "; \x7d")⟩] else [])

/-- The rules for the block's element: that for the element itself and those for its lines. -/
def elementEntries (theme : Theme) (lines : List CodeLine) : List Entry :=
  ⟨" ", "\x7b" ++ (" " ++ theme.container ++ " \x7d")⟩ :: lineEntries theme lines

private theorem map_elementEntries (theme : Theme) (label : String) (lines : List CodeLine) :
    (scope label ++ " \x7b " ++ theme.container ++ " \x7d") :: lineRules theme label lines =
      (elementEntries theme lines).map fun e => scope label ++ (e.selector ++ e.declarations) := by
  have hif (c : Prop) [Decidable c] (entries : List Entry) :
      (if c then entries else []).map (fun e => scope label ++ (e.selector ++ e.declarations)) =
        if c then entries.map (fun e => scope label ++ (e.selector ++ e.declarations)) else [] := by
    split <;> rfl
  -- Each literal is cut before its brace, where the selector ends.
  have hself : " \x7b " = " " ++ ("\x7b" ++ " ") := by decide
  have hhighlighted : " .line.highlighted \x7b background-color: " =
      " .line.highlighted " ++ ("\x7b" ++ " background-color: ") := by decide
  have hadded : " .line.diff.add \x7b background-color: rgba(46, 160, 67, 0.2); \x7d" =
      " .line.diff.add " ++ ("\x7b" ++ " background-color: rgba(46, 160, 67, 0.2); \x7d") := by
    decide
  have hremoved : " .line.diff.remove \x7b background-color: rgba(248, 81, 73, 0.2); \x7d" =
      " .line.diff.remove " ++ ("\x7b" ++ " background-color: rgba(248, 81, 73, 0.2); \x7d") := by
    decide
  have hblurred : " .line.blurred \x7b opacity: 0.5; filter: blur(0.5px); \x7d" =
      " .line.blurred " ++ ("\x7b" ++ " opacity: 0.5; filter: blur(0.5px); \x7d") := by decide
  have hnumber : " .line-number \x7b display: inline-block; min-width: 2.5em; margin-right: 1em; " =
      " .line-number " ++
        ("\x7b" ++ " display: inline-block; min-width: 2.5em; margin-right: 1em; ") := by decide
  unfold lineRules elementEntries lineEntries
  simp only [List.map_cons, List.map_append, hif, List.map_nil]
  rw [hself, hhighlighted, hadded, hremoved, hblurred, hnumber]
  simp only [String.append_assoc]

/-- Every entry is plain. -/
theorem isPlain_elementEntries (theme : Theme) (htheme : theme.IsOneLine) (lines : List CodeLine) :
    ∀ e ∈ elementEntries theme lines, e.IsPlain := by
  have hif (c : Prop) [Decidable c] (entries : List Entry) (h : ∀ e ∈ entries, e.IsPlain) :
      ∀ e ∈ (if c then entries else []), e.IsPlain := by
    intro e he
    split at he
    · exact h e he
    · cases he
  have hhighlight : OneLine (" background-color: " ++ theme.highlight ++ "; \x7d") :=
    OneLine.append (OneLine.append (.ofList _ (by decide)) htheme.highlight) (.ofList _ (by decide))
  have hcontainer : OneLine (" " ++ theme.container ++ " \x7d") :=
    OneLine.append (OneLine.append (.ofList _ (by decide)) htheme.container) (.ofList _ (by decide))
  have hnumber : OneLine (" display: inline-block; min-width: 2.5em; margin-right: 1em; " ++
      "text-align: right; user-select: none; color: " ++ theme.lineNumber ++ "; \x7d") :=
    OneLine.append (OneLine.append (OneLine.append (.ofList _ (by decide)) (.ofList _ (by decide)))
      htheme.lineNumber) (.ofList _ (by decide))
  rw [elementEntries, lineEntries, List.forall_mem_cons]
  simp only [List.forall_mem_append]
  refine ⟨.ofList _ (by decide) hcontainer, ⟨⟨hif _ _ ?_, hif _ _ ?_⟩, hif _ _ ?_⟩, hif _ _ ?_⟩
  · exact List.forall_mem_singleton.mpr (.ofList _ (by decide) hhighlight)
  · exact List.forall_mem_cons.mpr ⟨.ofList _ (by decide) (.ofList _ (by decide)),
      List.forall_mem_singleton.mpr (.ofList _ (by decide) (.ofList _ (by decide)))⟩
  · exact List.forall_mem_singleton.mpr (.ofList _ (by decide) (.ofList _ (by decide)))
  · exact List.forall_mem_singleton.mpr (.ofList _ (by decide) hnumber)

private theorem toList_sheet (rules : List String) (h : rules ≠ []) :
    ("<style>\n" ++ String.intercalate "\n" rules ++ "\n</style>").toList =
      "<style>\n".toList ++ ((rules.map String.toList).flatMap (· ++ ['\n']) ++ sheetEnd) := by
  have hclose : "\n</style>".toList = '\n' :: sheetEnd := by decide
  have hfeed : "\n".toList = ['\n'] := by decide
  have hne : rules.map String.toList ≠ [] := by simpa using h
  rw [String.toList_append, String.toList_append, Text.toList_intercalate, hclose, hfeed,
    List.append_assoc, Text.joinWith_append_cons _ _ _ hne]

/-- The style sheet of a block is read as the entries for the block's element and a rule for each
coloured key. -/
theorem readSheet?_entries (theme : Theme) (htheme : theme.IsOneLine) (label : String)
    (lines : List CodeLine) (keys : List String) (hkeys : ∀ key ∈ keys, ')' ∉ key.toList) :
    readSheet? label (style theme label lines keys).toList =
      some ((elementEntries theme lines).map Entry.rule ++
        (styledKeys theme keys).map (rangesRule theme)) := by
  have hrules : ∀ rule ∈ (elementEntries theme lines).map Entry.rule ++
      (styledKeys theme keys).map (rangesRule theme), rule.IsOneLine := by
    intro rule hrule
    rcases List.mem_append.mp hrule with hrule | hrule
    · obtain ⟨e, he, rfl⟩ := List.mem_map.mp hrule
      have hplain := isPlain_elementEntries theme htheme lines e he
      exact OneLine.append hplain.selector hplain.declarations
    · obtain ⟨key, hkey, rfl⟩ := List.mem_map.mp hrule
      exact ⟨hkeys key (List.mem_filter.mp hkey).1,
        OneLine.append (OneLine.append (.ofList _ (by decide)) (htheme.rule key))
          (.ofList _ (by decide))⟩
  have htexts : ((scope label ++ " \x7b " ++ theme.container ++ " \x7d") ::
      (lineRules theme label lines ++ (styledKeys theme keys).map (tokenRule theme label))).map
        String.toList =
      ((elementEntries theme lines).map Entry.rule ++
        (styledKeys theme keys).map (rangesRule theme)).map (SheetRule.text label) := by
    have htokens : String.toList ∘ tokenRule theme label =
        SheetRule.text label ∘ rangesRule theme := funext (toList_tokenRule theme label)
    have helements :
        (String.toList ∘ fun e : Entry => scope label ++ (e.selector ++ e.declarations)) =
          SheetRule.text label ∘ Entry.rule := funext fun e => String.toList_append
    rw [← List.cons_append, map_elementEntries, List.map_append, List.map_append, List.map_map,
      List.map_map, List.map_map, List.map_map, htokens, helements]
  have hsheet := toList_sheet _ (List.cons_ne_nil (scope label ++ " \x7b " ++ theme.container ++
    " \x7d") (lineRules theme label lines ++ (styledKeys theme keys).map (tokenRule theme label)))
  rw [htexts, List.flatMap_map] at hsheet
  rw [style, hsheet]
  exact readSheet?_written label _ hrules

/-- What the rules of a sheet select in the block's element is what the entries select. -/
theorem exists_selector?_iff (theme : Theme) (htheme : theme.IsOneLine) (lines : List CodeLine)
    (keys : List String) (selector : String) :
    (∃ rule ∈ (elementEntries theme lines).map Entry.rule ++ keys.map (rangesRule theme),
      rule.selector? = some selector.toList) ↔
    selector ∈ (elementEntries theme lines).map Entry.selector := by
  have hplain := isPlain_elementEntries theme htheme lines
  constructor
  · rintro ⟨rule, hrule, hselector⟩
    rcases List.mem_append.mp hrule with hrule | hrule
    · obtain ⟨e, he, rfl⟩ := List.mem_map.mp hrule
      rw [(hplain e he).selector?_rule, Option.some.injEq, String.toList_inj] at hselector
      exact List.mem_map.mpr ⟨e, he, hselector⟩
    · obtain ⟨key, -, rfl⟩ := List.mem_map.mp hrule
      cases hselector
  · intro hmem
    obtain ⟨e, he, rfl⟩ := List.mem_map.mp hmem
    exact ⟨e.rule, List.mem_append_left _ (List.mem_map_of_mem he), (hplain e he).selector?_rule⟩

end Block

end CodeHighlight
