import CodeHighlight.FrontMatter
import CodeHighlight.Proofs.Text.Line
import CodeHighlight.Proofs.Text.Run
import CodeHighlight.Proofs.Text.Split
import Mathlib.Data.List.TakeWhile

/-!
# Delimited texts

What it means that a text begins with data between two delimiters, said of the text itself and not
of a reading of it. The reader finds the delimiters exactly where they are.
-/

namespace CodeHighlight.FrontMatter

/-- The characters stand alone in a line, with blanks around them. -/
def StandsAlone (chars line : List Char) : Prop :=
  ∃ left right, line = left ++ chars ++ right ∧ (∀ c ∈ left, Text.isBlank c = true) ∧
    ∀ c ∈ right, Text.isBlank c = true

/-- The line opens front matter. -/
def IsOpening (line : List Char) : Prop := StandsAlone ['-', '-', '-'] line

/-- The line closes front matter. -/
def IsClosing (line : List Char) : Prop :=
  StandsAlone ['-', '-', '-'] line ∨ StandsAlone ['.', '.', '.'] line

/-- How a text falls into byte order marks, the lines up to the first closing delimiter, and the
rest behind the break of that line. -/
structure Delimited (source : List Char) where
  marks : List Char
  head : List Char
  rest : List Char
  opening : List Char
  data : List (List Char)
  closing : List Char
  source_eq : marks ++ (head ++ rest) = source
  marks_eq : ∀ c ∈ marks, c = Text.byteOrderMark
  unmarked : head.head? ≠ some Text.byteOrderMark
  lines_head : Text.lines head = opening :: (data ++ [closing])
  ends : rest = [] ∨ Text.EndsLine head rest
  isOpening : IsOpening opening
  not_isClosing : ∀ line ∈ data, ¬IsClosing line
  isClosing : IsClosing closing

/-- A line of characters that are no blanks is what is left of it without blanks. -/
theorem standsAlone_iff (chars line : List Char) (hne : chars ≠ [])
    (hchars : chars.any Text.isBlank = false) :
    StandsAlone chars line ↔ Text.trim line = chars := by
  constructor
  · rintro ⟨left, right, rfl, hleft, hright⟩
    have hfilled : ∀ c ∈ chars, Text.isBlank c = false := fun c hmem =>
      Bool.eq_false_iff.mpr (List.any_eq_false.mp hchars c hmem)
    exact Text.trim_between left chars right hleft hright hfilled hne
  · rintro rfl
    obtain ⟨left, right, hleft, hright, hline⟩ := Text.exists_trim line
    exact ⟨left, right, hline, hleft, hright⟩

private theorem standsAlone_dashes (line : List Char) :
    StandsAlone ['-', '-', '-'] line ↔ Text.trim line = "---".toList :=
  standsAlone_iff _ line (by decide) (by decide)

/-- The reader takes a line for an opening delimiter exactly if it is one. -/
theorem opens_iff (line : List Char) : opens line = true ↔ IsOpening line := by
  rw [opens, IsOpening, standsAlone_dashes, decide_eq_true_eq]

/-- The reader takes a line for a closing delimiter exactly if it is one. -/
theorem closes_iff (line : List Char) : closes line = true ↔ IsClosing line := by
  have hdots : StandsAlone ['.', '.', '.'] line ↔ Text.trim line = "...".toList :=
    standsAlone_iff _ line (by decide) (by decide)
  rw [closes, IsClosing, standsAlone_dashes, hdots, Bool.or_eq_true, decide_eq_true_eq,
    decide_eq_true_eq]

/-- A line that does not close front matter is not taken for a closing delimiter. -/
theorem closes_eq_false_iff (line : List Char) : closes line = false ↔ ¬IsClosing line := by
  rw [← closes_iff, Bool.not_eq_true]

/-- A text may begin without marks. -/
theorem marks_nil : ∀ c ∈ ([] : List Char), c = Text.byteOrderMark := List.forall_mem_nil _

/-- Three dashes open front matter. -/
theorem isOpening_dashes : IsOpening "---".toList :=
  ⟨[], [], by decide, List.forall_mem_nil _, List.forall_mem_nil _⟩

/-- Three dashes close front matter. -/
theorem isClosing_dashes : IsClosing "---".toList := Or.inl isOpening_dashes

namespace Delimited

variable {source : List Char}

/-- The text between the delimiters, with a line feed for every line break. -/
def text (d : Delimited source) : List Char := (d.data.flatMap (· ++ ['\n'])).dropLast

/-- The reader puts the lines together to the text between the delimiters. -/
theorem joined_data (d : Delimited source) : joined d.data = d.text := by
  rw [text, joined]
  by_cases hdata : d.data = []
  · rw [hdata]
    rfl
  · rw [← List.append_nil (d.data.flatMap _), ← Text.joinWith_append_cons _ _ _ hdata,
      List.dropLast_concat]

theorem head_ne_nil (d : Delimited source) : d.head ≠ [] := by
  intro h
  have hlines := d.lines_head
  rw [h, Text.lines_nil] at hlines
  cases hlines

/-- Without its marks a text begins with its opening delimiter. -/
theorem dropWhile_eq (d : Delimited source) :
    source.dropWhile (· = Text.byteOrderMark) = d.head ++ d.rest := by
  have hmarks : ∀ c ∈ d.marks, decide (c = Text.byteOrderMark) = true :=
    fun c hc => decide_eq_true (d.marks_eq c hc)
  obtain ⟨c, more, hhead⟩ := List.exists_cons_of_ne_nil d.head_ne_nil
  have hc : c ≠ Text.byteOrderMark := by
    have hunmarked := d.unmarked
    rw [hhead, List.head?_cons] at hunmarked
    exact fun e => hunmarked (congrArg some e)
  conv => lhs; rw [← d.source_eq]
  rw [List.dropWhile_append_of_pos hmarks, hhead, List.cons_append,
    List.dropWhile_cons_of_neg (by rw [decide_eq_true_eq]; exact hc)]

/-- The lines of a text without its marks. -/
theorem lines_eq (d : Delimited source) :
    Text.lines (d.head ++ d.rest) = d.opening :: (d.data ++ d.closing :: Text.lines d.rest) := by
  rcases d.ends with hrest | hends
  · rw [hrest, List.append_nil, d.lines_head, Text.lines_nil]
  · rw [Text.lines_append d.head d.rest hends, d.lines_head]
    simp

/-- The reader finds the data and the lines behind the first closing delimiter. -/
theorem delimited?_eq (d : Delimited source) :
    delimited? source = some (d.data, Text.lines d.rest) := by
  have hopen : ∀ line ∈ d.data, (!closes line) = true := fun line hline => by
    rw [(closes_eq_false_iff line).mpr (d.not_isClosing line hline)]
    rfl
  have htake : (d.data ++ d.closing :: Text.lines d.rest).takeWhile (fun line => !closes line) =
      d.data := by
    rw [List.takeWhile_append_of_pos hopen, List.takeWhile_cons_of_neg, List.append_nil]
    rw [(closes_iff d.closing).mpr d.isClosing]
    decide
  rw [delimited?, d.dropWhile_eq, d.lines_eq]
  dsimp only
  rw [htake, List.drop_left]
  dsimp only
  rw [if_pos ((opens_iff d.opening).mpr d.isOpening)]

end Delimited

private theorem drop_length_takeWhile {α : Type} (p : α → Bool) (members : List α) :
    members.drop (members.takeWhile p).length = members.dropWhile p := by
  calc members.drop (members.takeWhile p).length
    _ = (members.takeWhile p ++ members.dropWhile p).drop (members.takeWhile p).length := by
      rw [List.takeWhile_append_dropWhile]
    _ = members.dropWhile p := List.drop_left

private theorem eq_false_of_dropWhile {α : Type} (p : α → Bool) (members : List α) (first : α)
    (h : (members.dropWhile p).head? = some first) : p first = false := by
  have hfirst := List.head?_dropWhile_not p members
  rw [h] at hfirst
  exact hfirst

private theorem lines_of_delimited? (source : List Char)
    (found : List (List Char) × List (List Char)) (h : delimited? source = some found) :
    ∃ opening data closing body, Text.lines (source.dropWhile (· = Text.byteOrderMark)) =
      (opening :: (data ++ [closing])) ++ body ∧ opens opening = true ∧
        (∀ line ∈ data, closes line = false) ∧ closes closing = true := by
  let isData : List Char → Bool := fun line => !closes line
  rw [delimited?] at h
  cases hlines : Text.lines (source.dropWhile (· = Text.byteOrderMark)) with
  | nil => rw [hlines] at h; cases h
  | cons opening others =>
    rw [hlines] at h
    dsimp only at h
    rw [drop_length_takeWhile] at h
    cases hbehind : others.dropWhile isData with
    | nil => rw [hbehind] at h; cases h
    | cons closing body =>
      rw [hbehind] at h
      refine ⟨opening, others.takeWhile isData, closing, body, ?_, ?_, ?_, ?_⟩
      · conv => lhs; rw [← List.takeWhile_append_dropWhile (p := isData) (l := others)]
        rw [hbehind, List.cons_append, List.append_assoc, List.singleton_append]
      · cases ho : opens opening with
        | true => rfl
        | false => simp [ho] at h
      · intro line hline
        have hdata : (!closes line) = true := List.mem_takeWhile_imp (p := isData) hline
        rwa [Bool.not_eq_true'] at hdata
      · have hclosing : (!closes closing) = false :=
          eq_false_of_dropWhile isData others closing (by rw [hbehind, List.head?_cons])
        rwa [Bool.not_eq_false'] at hclosing

/-- Where the reader finds delimiters there are some. -/
theorem exists_delimited (source : List Char) (found : List (List Char) × List (List Char))
    (h : delimited? source = some found) : Nonempty (Delimited source) := by
  let isMark : Char → Bool := (· = Text.byteOrderMark)
  obtain ⟨opening, data, closing, body, hlines, hopens, hdata, hcloses⟩ :=
    lines_of_delimited? source found h
  -- The lines up to the closing delimiter are those of a text of their own.
  obtain ⟨head, rest, happend, hhead, -, hends⟩ :=
    Text.exists_append_of_lines _ _ _ (List.cons_ne_nil _ _) hlines
  exact ⟨{
    marks := source.takeWhile isMark
    head, rest, opening, data, closing
    source_eq := by rw [happend, List.takeWhile_append_dropWhile]
    marks_eq := fun c hc => by
      have hmark : decide (c = Text.byteOrderMark) = true :=
        List.mem_takeWhile_imp (p := isMark) hc
      exact of_decide_eq_true hmark
    unmarked := by
      intro hmark
      have hfirst : (source.dropWhile isMark).head? = some Text.byteOrderMark := by
        rw [← happend, List.head?_append, hmark, Option.some_or]
      exact absurd (eq_false_of_dropWhile isMark source _ hfirst) (by decide)
    lines_head := hhead
    ends := hends
    isOpening := (opens_iff opening).mp hopens
    not_isClosing := fun line hline => (closes_eq_false_iff line).mp (hdata line hline)
    isClosing := (closes_iff closing).mp hcloses }⟩

/-- The reader finds nothing if and only if the text is not delimited. -/
theorem delimited?_eq_none_iff (source : List Char) :
    delimited? source = Option.none ↔ ¬Nonempty (Delimited source) := by
  constructor
  · rintro h ⟨d⟩
    rw [d.delimited?_eq] at h
    cases h
  · intro h
    cases hfound : delimited? source with
    | none => rfl
    | some found => exact absurd (exists_delimited source found hfound) h

end CodeHighlight.FrontMatter
