import CodeHighlight.Directives
import CodeHighlight.Proofs.Directives.Selector

/-!
# Written directives

A choice of directives, at most one of each form, the text that writes them in some order with
separators around them, and what the choice denotes. The denotation knows no order.
-/

namespace CodeHighlight

open Text (Digits)

/-- A line number flag in the long or the short spelling, with the number behind its colon. -/
structure WrittenFlag where
  long : Bool
  start : Option Digits

namespace WrittenFlag

/-- The spelling of the flag. -/
def name (f : WrittenFlag) : List Char :=
  if f.long then "showLineNumbers".toList else "lineNumbers".toList

/-- The first letter of the name, and the part of the name up to the last letter. -/
theorem name_eq (f : WrittenFlag) :
    f.name = 's' :: ("howLineNumber".toList ++ ['s']) ∨
      f.name = 'l' :: ("ineNumber".toList ++ ['s']) := by
  rw [name]
  by_cases h : f.long = true
  · rw [if_pos h]
    exact Or.inl rfl
  · rw [if_neg h]
    exact Or.inr rfl

/-- What stands behind the name. -/
def suffix : Option Digits → List Char
  | none => []
  | some d => ':' :: d.chars

/-- A character that is neither a digit nor a colon does not stand behind the name. -/
theorem not_mem_suffix (start : Option Digits) (c : Char) (hdigit : Text.isDigit c = false)
    (hcolon : c ≠ ':') : c ∉ suffix start := by
  intro hc
  cases start with
  | none => cases hc
  | some d =>
    rcases List.mem_cons.mp hc with he | hin
    · exact hcolon he
    · exact d.not_mem c hdigit hin

/-- The flag as it is written. -/
def text (f : WrittenFlag) : List Char := f.name ++ suffix f.start

/-- A character that is no letter of ASCII, no digit and no colon does not occur in a flag. -/
theorem not_mem_text (f : WrittenFlag) (c : Char) (hletter : c.isAlpha = false)
    (hdigit : Text.isDigit c = false) (hcolon : c ≠ ':') : c ∉ f.text := by
  intro hc
  rcases List.mem_append.mp hc with hname | hsuffix
  · have hletters : f.name.all Char.isAlpha = true := by
      rcases f.name_eq with h | h
      · rw [h]
        decide
      · rw [h]
        decide
    exact Bool.noConfusion (hletter.symm.trans (List.all_eq_true.mp hletters c hname))
  · exact not_mem_suffix f.start c hdigit hcolon hsuffix

/-- The number of the first line: one, when none is given or the given one is too long. -/
def first (f : WrittenFlag) : Int :=
  match f.start with
  | none => 1
  | some d => if d.Readable then d.value else 1

end WrittenFlag

/-- Numbers with single commas between them, at least one. -/
structure WrittenNumbers where
  numbers : List Digits
  nonempty : numbers ≠ []

namespace WrittenNumbers

/-- The numbers as they are written. -/
def text (n : WrittenNumbers) : List Char := Text.joinWith [','] (n.numbers.map Digits.chars)

/-- A character that is neither a digit nor a comma does not occur in a list of numbers. -/
theorem not_mem_text (n : WrittenNumbers) (c : Char) (hdigit : Text.isDigit c = false)
    (hcomma : c ≠ ',') : c ∉ n.text := by
  intro hc
  rcases Text.mem_joinWith _ _ c hc with hin | ⟨piece, hpiece, hin⟩
  · exact hcomma (List.mem_singleton.mp hin)
  · obtain ⟨d, -, rfl⟩ := List.mem_map.mp hpiece
    exact d.not_mem c hdigit hin

/-- No number is too long. -/
def Readable (n : WrittenNumbers) : Prop := ∀ d ∈ n.numbers, d.Readable

instance (n : WrittenNumbers) : Decidable n.Readable :=
  inferInstanceAs (Decidable (∀ d ∈ n.numbers, d.Readable))

/-- The lines that the numbers name, unless one of them is too long. -/
def lines? (n : WrittenNumbers) : Option LineSet :=
  if n.Readable then some (LineSet.ofLines (n.numbers.map fun d => (d.value : Int))) else none

end WrittenNumbers

/-- A directive of one of the five forms. -/
inductive WrittenDirective where
  /-- Highlighted lines. -/
  | highlight (selector : WrittenSelector)
  /-- Focused lines. -/
  | focus (selector : WrittenSelector)
  /-- Numbered lines. -/
  | number (flag : WrittenFlag)
  /-- Added lines. -/
  | added (numbers : WrittenNumbers)
  /-- Removed lines. -/
  | removed (numbers : WrittenNumbers)

namespace WrittenDirective

/-- A selector in braces. -/
def group (s : WrittenSelector) : List Char := '{' :: (s.text ++ ['}'])

/-- A character that is no brace and does not occur in a selector does not occur in its group. -/
theorem not_mem_group (s : WrittenSelector) (c : Char) (hbraces : c ≠ '{' ∧ c ≠ '}')
    (h : c ∉ s.text) : c ∉ group s := by
  intro hc
  rcases List.mem_cons.mp hc with hopen | hrest
  · exact hbraces.1 hopen
  · rcases List.mem_append.mp hrest with hin | hclose
    · exact h hin
    · exact hbraces.2 (List.mem_singleton.mp hclose)

/-- The keyword before a focused group. -/
def focusKeyword : List Char := "focus".toList

/-- The directive as it is written. -/
def text : WrittenDirective → List Char
  | highlight s => group s
  | focus s => focusKeyword ++ group s
  | number f => f.text
  | added n => '+' :: n.text
  | removed n => '-' :: n.text

/-- The selector of a highlight directive. -/
def highlight? : WrittenDirective → Option WrittenSelector
  | highlight s => some s
  | _ => none

/-- The selector of a focus directive. -/
def focus? : WrittenDirective → Option WrittenSelector
  | focus s => some s
  | _ => none

/-- The flag of a directive that numbers lines. -/
def number? : WrittenDirective → Option WrittenFlag
  | number f => some f
  | _ => none

/-- The numbers of a directive that marks added lines. -/
def added? : WrittenDirective → Option WrittenNumbers
  | added n => some n
  | _ => none

/-- The numbers of a directive that marks removed lines. -/
def removed? : WrittenDirective → Option WrittenNumbers
  | removed n => some n
  | _ => none

end WrittenDirective

/-- At most one directive of each form. -/
structure WrittenChoice where
  highlight : Option WrittenSelector := none
  focus : Option WrittenSelector := none
  number : Option WrittenFlag := none
  added : Option WrittenNumbers := none
  removed : Option WrittenNumbers := none

namespace WrittenChoice

/-- The chosen directives. -/
def directives (w : WrittenChoice) : List WrittenDirective :=
  (w.highlight.map .highlight).toList ++ (w.focus.map .focus).toList ++
    (w.number.map .number).toList ++ (w.added.map .added).toList ++
    (w.removed.map .removed).toList

/-- What a choice asks for. A selector or a list with a number that is too long asks for nothing. -/
def denotes (w : WrittenChoice) : Directives :=
  let added := w.added.bind WrittenNumbers.lines?
  let removed := w.removed.bind WrittenNumbers.lines?
  { highlighted := w.highlight.bind fun s =>
      if s.Readable then some (String.ofList s.bare) else none
    numbering := w.number.map WrittenFlag.first
    diff := if added = none ∧ removed = none then none else some ⟨added, removed⟩
    focus := w.focus.bind fun s => if s.Readable then some s.lines else none }

end WrittenChoice

/-- Text without braces, letters of ASCII and decimal digits, such as stands between directives. -/
structure Separator where
  chars : List Char
  plain : ∀ c ∈ chars, c ≠ '{' ∧ c ≠ '}' ∧ c.isAlpha = false ∧ Text.isDigit c = false

/-- Directives, each with the separator behind it. -/
abbrev WrittenParts := List (WrittenDirective × Separator)

namespace WrittenParts

/-- The parts one after the other. -/
def text (parts : WrittenParts) : List Char :=
  parts.flatMap fun part => part.1.text ++ part.2.chars

/-- The directives without the separators. -/
def directives (parts : WrittenParts) : List WrittenDirective := parts.map Prod.fst

/-- No sign of removed lines stands directly behind a digit, when the parts follow `lead`. -/
def SignsApart (lead : Separator) (parts : WrittenParts) : Prop :=
  ∀ front numbers separator back, parts = front ++ (.removed numbers, separator) :: back →
    ∀ c ∈ (lead.chars ++ text front).getLast?, Text.isDigit c = false

/-- A part first, then the others. -/
theorem text_cons (d : WrittenDirective) (s : Separator) (rest : WrittenParts) :
    text ((d, s) :: rest) = d.text ++ (s.chars ++ text rest) := by
  rw [text, List.flatMap_cons, List.append_assoc]
  rfl

end WrittenParts

end CodeHighlight
