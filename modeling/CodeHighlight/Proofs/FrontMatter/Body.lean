import CodeHighlight.Proofs.FrontMatter.Delimited

/-!
# The body behind front matter

The body is put together from the lines behind the front matter. What became of the text there: a
line break of any kind is a line feed in the body, the break at the end counts only if it is a line
feed, and a body without any line still ends as the whole text does. Otherwise the body is the text.
-/

namespace CodeHighlight.FrontMatter

/-- The line feed at the end of a text, if it ends with one. -/
def finalFeed (text : List Char) : List Char := if text.getLast? = some '\n' then ['\n'] else []

/-- The line feed for a break at the end of a text that is no line feed. -/
def lostBreak (text : List Char) : List Char :=
  if text.getLast?.any fun c => Text.isBreak c && c ≠ '\n' then ['\n'] else []

/-- The body when the data is loaded. -/
theorem split_of_load (source : String) (load : Loader) (d : Delimited source.toList)
    (value : Yaml.Value) (hload : load (joined d.data) = .ok value) :
    split source load = .ok ⟨entriesOf value,
      String.ofList (joined (Text.lines d.rest) ++ finalFeed source.toList)⟩ := by
  rw [split, d.delimited?_eq]
  dsimp only
  rw [hload]
  rfl

/-- A text that is read as a value is loaded as this value. -/
theorem loadData_of_load (text : List Char) (value : Yaml.Value)
    (h : Yaml.load text = .ok value) : loadData text = .ok value := by
  rw [loadData, h]
  rfl

/-- A text with a body ends as its body does. -/
theorem Delimited.getLast?_source {source : List Char} (d : Delimited source) (h : d.rest ≠ []) :
    source.getLast? = d.rest.getLast? := by
  conv => lhs; rw [← d.source_eq]
  rw [← List.append_assoc, List.getLast?_append, List.getLast?_eq_some_getLast h, Option.some_or]

/-- Joined lines with the final line feed, and the break that was lost. -/
theorem joined_lines_append (rest : List Char) :
    joined (Text.lines rest) ++ finalFeed rest ++ lostBreak rest =
      (Text.unifyBreaks rest).map Text.feed := by
  rw [← Text.joinWith_lines rest, List.append_assoc, joined, finalFeed, lostBreak]
  congr 1
  cases hlast : rest.getLast? with
  | none => rfl
  | some c =>
    by_cases hfeed : c = '\n'
    · rw [hfeed]
      rfl
    · simp [hfeed]

/-- The body is the unified text if and only if no break was written otherwise or lost. -/
theorem joined_lines_eq_iff (rest : List Char) :
    joined (Text.lines rest) ++ finalFeed rest = Text.unifyBreaks rest ↔
      (∀ c ∈ rest, Text.isBreak c = true → c = '\n' ∨ c = '\r') ∧ rest.getLast? ≠ some '\r' := by
  have hall := joined_lines_append rest
  constructor
  · intro h
    have hlost : lostBreak rest = [] := by
      have hlength := congrArg List.length hall
      rw [h, List.length_append, List.length_map] at hlength
      exact List.eq_nil_of_length_eq_zero (by omega)
    rw [h, hlost, List.append_nil] at hall
    refine ⟨(Text.map_feed_unifyBreaks_iff rest).mp hall.symm, fun hlast => ?_⟩
    rw [lostBreak, hlast] at hlost
    exact absurd hlost (by decide)
  · rintro ⟨hbreaks, hlast⟩
    have hlost : lostBreak rest = [] := by
      rw [lostBreak, if_neg]
      cases hend : rest.getLast? with
      | none => decide
      | some c =>
        rw [Option.any_some, Bool.and_eq_true, not_and, decide_eq_true_eq, not_not]
        intro hc
        rcases hbreaks c (List.mem_of_getLast? hend) hc with e | e
        · exact e
        · exact absurd (hend.trans (congrArg some e)) hlast
    rw [hlost, List.append_nil] at hall
    exact hall.trans ((Text.map_feed_unifyBreaks_iff rest).mpr hbreaks)

/-- The body of a text with front matter that is loaded. With every break as a line feed it is the
text behind the closing delimiter, but for a final break that is no line feed; where nothing stands
there, it is a line feed or nothing, as the whole text ends. It is that text up to carriage returns
if and only if the text holds no other break, ends with no carriage return, and is not empty behind
a line feed. -/
theorem body_of_split (source : String) (d : Delimited source.toList) (value : Yaml.Value)
    (hload : Yaml.load (joined d.data) = .ok value) :
    ∃ body : String, split source = .ok ⟨entriesOf value, body⟩ ∧
      (d.rest = [] → body.toList = finalFeed source.toList) ∧
      (d.rest ≠ [] →
        body.toList ++ lostBreak d.rest = (Text.unifyBreaks d.rest).map Text.feed) ∧
      (body.toList = Text.unifyBreaks d.rest ↔
        (∀ c ∈ d.rest, Text.isBreak c = true → c = '\n' ∨ c = '\r') ∧
        d.rest.getLast? ≠ some '\r' ∧ (d.rest = [] → source.toList.getLast? ≠ some '\n')) := by
  refine ⟨_, split_of_load source loadData d value (loadData_of_load _ value hload), ?_⟩
  rw [String.toList_ofList]
  by_cases hrest : d.rest = []
  · have hbody :
        joined (Text.lines d.rest) ++ finalFeed source.toList = finalFeed source.toList := by
      rw [hrest, Text.lines_nil]
      rfl
    refine ⟨fun _ => hbody, fun h => absurd hrest h, ?_⟩
    rw [hbody, hrest, Text.unifyBreaks, finalFeed]
    simp
  · have hfinal : finalFeed source.toList = finalFeed d.rest := by
      rw [finalFeed, finalFeed, d.getLast?_source hrest]
    refine ⟨fun h => absurd h hrest, fun _ => ?_, ?_⟩
    · rw [hfinal]
      exact joined_lines_append d.rest
    · rw [hfinal, joined_lines_eq_iff d.rest]
      simp [hrest]

/-- A number as front matter, and a body whose line ends in both ways. -/
def numbered : Delimited "\uFEFF---\nn: 1\n---\na\r\nb".toList where
  marks := ['\uFEFF']
  head := "---\nn: 1\n---\n".toList
  rest := "a\r\nb".toList
  opening := "---".toList
  data := ["n: 1".toList]
  closing := "---".toList
  source_eq := by decide +kernel
  marks_eq := fun _ hc => List.mem_singleton.mp hc
  unmarked := by decide +kernel
  lines_head := by decide +kernel
  ends := Or.inr ⟨'\n', by decide +kernel⟩
  isOpening := isOpening_dashes
  not_isClosing := List.forall_mem_singleton.mpr ((closes_eq_false_iff _).mp (by decide +kernel))
  isClosing := isClosing_dashes

/-- The body behind a number is the text behind it. -/
theorem body_of_split_numbered : ∃ (value : Yaml.Value) (body : String),
    Yaml.load (joined numbered.data) = .ok value ∧
    split "\uFEFF---\nn: 1\n---\na\r\nb" = .ok ⟨entriesOf value, body⟩ ∧
    body.toList = Text.unifyBreaks numbered.rest := by
  have hloaded : (Yaml.load (joined numbered.data)).isOk = true := by decide +kernel
  cases hload : Yaml.load (joined numbered.data) with
  | error fault =>
    rw [hload] at hloaded
    cases hloaded
  | ok value =>
    obtain ⟨body, hsplit, -, -, hbody⟩ := body_of_split _ numbered value hload
    have hbreaks : numbered.rest.all (fun c =>
        decide (Text.isBreak c = true → c = '\n' ∨ c = '\r')) = true := by decide +kernel
    refine ⟨value, body, rfl, hsplit, hbody.mpr ⟨fun c hc => ?_, by decide +kernel,
      fun h => absurd h (List.cons_ne_nil _ _)⟩⟩
    exact of_decide_eq_true (List.all_eq_true.mp hbreaks c hc)

/-- Nothing as front matter, and a body with a line separator in its line. -/
def separated : Delimited "---\n---\na\u2028b".toList where
  marks := []
  head := "---\n---\n".toList
  rest := "a\u2028b".toList
  opening := "---".toList
  data := []
  closing := "---".toList
  source_eq := by decide +kernel
  marks_eq := marks_nil
  unmarked := by decide +kernel
  lines_head := by decide +kernel
  ends := Or.inr ⟨'\n', by decide +kernel⟩
  isOpening := isOpening_dashes
  not_isClosing := List.forall_mem_nil _
  isClosing := isClosing_dashes

/-- A line separator becomes a line feed in the body. -/
theorem body_of_split_separated :
    Yaml.load (joined separated.data) = .ok .null ∧
    split "---\n---\na\u2028b" = .ok ⟨[], "a\nb"⟩ ∧
    "a\nb".toList ≠ Text.unifyBreaks separated.rest := by
  have hload : Yaml.load (joined separated.data) = .ok .null := rfl
  have hbody : joined (Text.lines separated.rest) ++ finalFeed "---\n---\na\u2028b".toList =
      "a\nb".toList := by decide +kernel
  refine ⟨hload, ?_, by decide +kernel⟩
  rw [split_of_load _ loadData separated .null (loadData_of_load _ .null hload), hbody,
    String.ofList_toList]
  rfl

end CodeHighlight.FrontMatter
