import CodeHighlight.Text.Blank

/-!
# Line breaks

Two readings of a line break. A source file knows line feed, carriage return and the pair of both,
and is brought to line feeds alone. A text in general also breaks at the vertical tab, the form
feed, the three information separators, the next-line control and the two Unicode separators.
-/

namespace CodeHighlight.Text

/-- Writes every carriage return, alone or before a line feed, as one line feed. -/
def unifyBreaks : List Char → List Char
  | [] => []
  | '\r' :: '\n' :: rest => '\n' :: unifyBreaks rest
  | c :: rest => (if c = '\r' then '\n' else c) :: unifyBreaks rest

/-- The byte order mark. -/
def byteOrderMark : Char := '\uFEFF'

/-- Drops one byte order mark at the front. -/
def dropMark : List Char → List Char
  | [] => []
  | c :: rest => if c = byteOrderMark then rest else c :: rest

/-- Characters at which a text in general breaks into lines. -/
def isBreak (c : Char) : Bool :=
  c ∈ ['\n', '\r', '\x0B', '\x0C', '\x1C', '\x1D', '\x1E', '\x85', '\u2028', '\u2029']

/-- Cuts off the first line and the break that ends it. -/
def takeLine : List Char → List Char × List Char
  | [] => ([], [])
  | c :: rest =>
    if isBreak c then
      match c, rest with
      | '\r', '\n' :: more => ([], more)
      | _, _ => ([], rest)
    else
      let (line, more) := takeLine rest
      (c :: line, more)

/-- What follows a line is shorter than the text that held the line. -/
theorem length_takeLine_lt {text : List Char} (h : text ≠ []) :
    (takeLine text).2.length < text.length := by
  induction text with
  | nil => exact absurd rfl h
  | cons c rest ih =>
    unfold takeLine
    split
    · split
      · simp only [List.length_cons]
        omega
      · simp
    · cases rest with
      | nil => simp [takeLine]
      | cons d more =>
        have := ih (by simp)
        simp only [List.length_cons] at this ⊢
        omega

/-- The lines of a text, without their breaks. A break at the end opens no further line. -/
def lines (text : List Char) : List (List Char) :=
  if _h : text = [] then [] else (takeLine text).1 :: lines (takeLine text).2
termination_by text.length
decreasing_by exact length_takeLine_lt ‹_›

/-- Unified text holds no carriage return. -/
theorem not_mem_unifyBreaks (text : List Char) : '\r' ∉ unifyBreaks text := by
  fun_induction unifyBreaks text with
  | case1 => simp
  | case2 rest ih => simp [ih]
  | case3 c rest h ih =>
    simp only [List.mem_cons, not_or]
    refine ⟨?_, ih⟩
    split
    · decide
    · rename_i hc
      exact fun e => hc e.symm

/-- A text without carriage returns is left as it is. -/
theorem unifyBreaks_of_not_mem {text : List Char} (h : '\r' ∉ text) : unifyBreaks text = text := by
  fun_induction unifyBreaks text with
  | case1 => rfl
  | case2 rest ih => simp at h
  | case3 c rest hc ih =>
    simp only [List.mem_cons, not_or] at h
    rw [if_neg (fun e => h.1 e.symm), ih h.2]

end CodeHighlight.Text
