import CodeHighlight.Markdown.Entity
import CodeHighlight.Proofs.Text.Run
import CodeHighlight.Text.Escape

/-!
# References inside markup

What is escaped is decoded again. Every reference that escaping writes has a name of letters, digits
and a number sign between an ampersand and a semicolon, so it is read as a whole whatever text
follows, and it holds no character that could begin or end a tag or an attribute.
-/

namespace CodeHighlight

namespace Markdown.Entity

/-- A character that may stand between the ampersand and the semicolon of a reference. -/
def isNameChar (c : Char) : Bool := c.isAlphanum || c = '#'

private theorem body?_name (name rest : List Char) (hname : ∀ c ∈ name, isNameChar c = true)
    (hne : name ≠ []) : body? (name ++ ';' :: rest) = some name := by
  have htake : (name ++ ';' :: rest).takeWhile (fun c => c.isAlphanum || c = '#') = name :=
    Text.takeWhile_run isNameChar name (';' :: rest) hname rfl
  have hempty : name.isEmpty = false := by simp [hne]
  rw [body?, htake, List.drop_left, hempty]
  rfl

private theorem inText?_name (name rest : List Char) (hname : ∀ c ∈ name, isNameChar c = true)
    (hne : name ≠ []) : inText? (name ++ ';' :: rest) = inText? (name ++ [';']) := by
  rw [inText?, inText?, body?_name name rest hname hne, body?_name name [] hname hne]

end Markdown.Entity

namespace Text

open Markdown (Entity.inText? Entity.isNameChar Entity.inText?_name)

/-- Takes the references in a text back to the characters that they stand for; an ampersand that
begins no reference stands for itself. -/
def decode : List Char → List Char
  | [] => []
  | c :: rest =>
    if c = '&' then
      match Entity.inText? rest with
      | some (characters, length) => characters ++ decode (rest.drop length)
      | none => c :: decode rest
    else c :: decode rest
termination_by text => text.length
decreasing_by all_goals simp only [List.length_cons, List.length_drop]; omega

/-- A reference, by name or by number, that stands for a character. -/
structure Reference (c : Char) where
  name : List Char
  isNameChar_of_mem : ∀ d ∈ name, Entity.isNameChar d = true
  meaning : Entity.inText? (name ++ [';']) = some ([c], name.length + 1)

namespace Reference

variable {c : Char}

/-- The characters of a reference. -/
def chars (r : Reference c) : List Char := '&' :: (r.name ++ [';'])

private theorem name_ne_nil (r : Reference c) : r.name ≠ [] := by
  intro h
  have hmeaning := r.meaning
  rw [h] at hmeaning
  cases hmeaning

/-- A reference is decoded to its character, whatever follows. -/
theorem decode_chars (r : Reference c) (rest : List Char) :
    decode (r.chars ++ rest) = c :: decode rest := by
  have hchars : r.chars ++ rest = '&' :: (r.name ++ ';' :: rest) := by simp [chars]
  have hread : Entity.inText? (r.name ++ ';' :: rest) = some ([c], r.name.length + 1) := by
    rw [Entity.inText?_name r.name rest r.isNameChar_of_mem r.name_ne_nil, r.meaning]
  have hdrop : (r.name ++ ';' :: rest).drop (r.name.length + 1) = rest := by simp
  rw [hchars, decode, if_pos rfl, hread]
  dsimp only
  rw [hdrop, List.singleton_append]

/-- The ampersand by name. -/
def ampersand : Reference '&' := ⟨"amp".toList, List.all_eq_true.mp rfl, by decide +kernel⟩

/-- The less-than sign by name. -/
def less : Reference '<' := ⟨"lt".toList, List.all_eq_true.mp rfl, by decide +kernel⟩

/-- The greater-than sign by name. -/
def greater : Reference '>' := ⟨"gt".toList, List.all_eq_true.mp rfl, by decide +kernel⟩

end Reference

/-- Both quotation marks are written as references. -/
structure QuoteSpelling.Refers (spelling : QuoteSpelling) : Prop where
  double : ∃ r : Reference '"', spelling.double.toList = r.chars
  single : ∃ r : Reference '\'', spelling.single.toList = r.chars

/-- Decimal references stand for the marks. -/
theorem QuoteSpelling.refers_decimal : QuoteSpelling.decimal.Refers :=
  ⟨⟨⟨"#34".toList, List.all_eq_true.mp rfl, by decide +kernel⟩, rfl⟩,
    ⟨⟨"#39".toList, List.all_eq_true.mp rfl, by decide +kernel⟩, rfl⟩⟩

/-- The name and the hexadecimal reference stand for the marks. -/
theorem QuoteSpelling.refers_named : QuoteSpelling.named.Refers :=
  ⟨⟨⟨"quot".toList, List.all_eq_true.mp rfl, by decide +kernel⟩, rfl⟩,
    ⟨⟨"#x27".toList, List.all_eq_true.mp rfl, by decide +kernel⟩, rfl⟩⟩

/-- A character that may begin or end a tag or an attribute. -/
def isMarkup (c : Char) : Bool := c = '<' || c = '>' || c = '"' || c = '\''

/-- No character of the text may begin or end a tag or an attribute. -/
def Plain (text : List Char) : Prop := ∀ c ∈ text, isMarkup c = false

instance (text : List Char) : Decidable (Plain text) :=
  inferInstanceAs (Decidable (∀ c ∈ text, isMarkup c = false))

/-- A reference holds no such character. -/
theorem Reference.plain_chars {c : Char} (r : Reference c) : Plain r.chars := by
  intro d hd
  rw [chars, List.mem_cons, List.mem_append, List.mem_singleton] at hd
  rcases hd with rfl | hd | rfl
  · decide
  · have hname := r.isNameChar_of_mem d hd
    rw [Bool.eq_false_iff]
    intro hmarkup
    have hcases : ((d = '<' ∨ d = '>') ∨ d = '"') ∨ d = '\'' := by
      simpa [isMarkup] using hmarkup
    rcases hcases with ((rfl | rfl) | rfl) | rfl <;> cases hname
  · decide

section

variable {spelling : QuoteSpelling}

/-- A character is written as a reference to it, or as itself if it is no ampersand and begins or
ends nothing. -/
theorem escapeChar_cases (hs : spelling.Refers) (c : Char) :
    (∃ r : Reference c, escapeChar spelling c = r.chars) ∨
      escapeChar spelling c = [c] ∧ c ≠ '&' ∧ isMarkup c = false := by
  obtain ⟨double, hdouble⟩ := hs.double
  obtain ⟨single, hsingle⟩ := hs.single
  have hdouble' : spelling.double ≠ "" := by
    intro h
    rw [h] at hdouble
    cases hdouble
  have hsingle' : spelling.single ≠ "" := by
    intro h
    rw [h] at hsingle
    cases hsingle
  by_cases hamp : c = '&'
  · subst c
    exact .inl ⟨.ampersand, rfl⟩
  by_cases hless : c = '<'
  · subst c
    exact .inl ⟨.less, rfl⟩
  by_cases hgreater : c = '>'
  · subst c
    exact .inl ⟨.greater, rfl⟩
  by_cases hd : c = '"'
  · subst c
    refine .inl ⟨double, ?_⟩
    rw [← hdouble]
    simp [escapeChar, hdouble']
  by_cases hq : c = '\''
  · subst c
    refine .inl ⟨single, ?_⟩
    rw [← hsingle]
    simp [escapeChar, hsingle']
  · refine .inr ⟨?_, hamp, ?_⟩
    · simp [escapeChar, hamp, hless, hgreater, hd, hq]
    · simp [isMarkup, hless, hgreater, hd, hq]

/-- An escaped text in front of another one. -/
theorem escape_append (first second : List Char) :
    escape spelling (first ++ second) = escape spelling first ++ escape spelling second :=
  List.flatMap_append

/-- A text is written as it is if no character of it is an ampersand or begins or ends
something. -/
theorem escape_of_plain (text : List Char) (h : ∀ c ∈ text, c ≠ '&' ∧ isMarkup c = false) :
    escape spelling text = text := by
  induction text with
  | nil => rfl
  | cons c rest ih =>
    obtain ⟨hamp, hmarkup⟩ := h c List.mem_cons_self
    have hc : escapeChar spelling c = [c] := by
      simp only [isMarkup, Bool.or_eq_false_iff, decide_eq_false_iff_not] at hmarkup
      simp [escapeChar, hamp, hmarkup]
    have hrest := ih fun d hd => h d (List.mem_cons_of_mem _ hd)
    rw [escape, List.flatMap_cons, hc]
    exact congrArg (c :: ·) hrest

/-- An escaped text begins or ends no tag and no attribute. -/
theorem plain_escape (hs : spelling.Refers) (text : List Char) : Plain (escape spelling text) := by
  intro d hd
  obtain ⟨c, -, hc⟩ := List.mem_flatMap.mp hd
  rcases escapeChar_cases hs c with ⟨r, hr⟩ | ⟨hself, -, hplain⟩
  · rw [hr] at hc
    exact r.plain_chars d hc
  · rw [hself, List.mem_singleton] at hc
    rw [hc]
    exact hplain

/-- What is escaped is decoded again, whatever follows. -/
theorem decode_escape_append (hs : spelling.Refers) (text rest : List Char) :
    decode (escape spelling text ++ rest) = text ++ decode rest := by
  induction text with
  | nil => rfl
  | cons c more ih =>
    have happend : escape spelling (c :: more) ++ rest =
        escapeChar spelling c ++ (escape spelling more ++ rest) := by simp [escape]
    rw [happend]
    rcases escapeChar_cases hs c with ⟨r, hr⟩ | ⟨hself, hamp, -⟩
    · rw [hr, r.decode_chars, ih]
      rfl
    · rw [hself, List.singleton_append, decode, if_neg hamp, ih]
      rfl

/-- What is escaped is decoded again. -/
@[simp]
theorem decode_escape (hs : spelling.Refers) (text : List Char) :
    decode (escape spelling text) = text := by
  have happend := decode_escape_append hs text []
  rwa [List.append_nil, decode, List.append_nil] at happend

/-- Texts that are written alike are the same. -/
theorem escape_inj (hs : spelling.Refers) {first second : List Char} :
    escape spelling first = escape spelling second ↔ first = second := by
  refine ⟨fun h => ?_, congrArg _⟩
  rw [← decode_escape hs first, h, decode_escape hs]

/-- Only an empty text is written as nothing. -/
theorem escape_eq_nil (hs : spelling.Refers) (text : List Char) :
    escape spelling text = [] ↔ text = [] := by
  constructor
  · intro h
    have hdecode := decode_escape hs text
    rw [h, decode] at hdecode
    exact hdecode.symm
  · rintro rfl
    rfl

end

end Text

end CodeHighlight
