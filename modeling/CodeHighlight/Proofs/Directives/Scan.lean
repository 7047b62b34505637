import CodeHighlight.Directives.Meta
import CodeHighlight.Proofs.Directives.Written

/-!
# Scanners over written directives

A scanner walks along a text and knows the characters passed. It passes a piece when it finds
nothing there and goes on behind it. A scanner that passes all separators, and finds in every
directive what it looks for or passes the directive, finds in a text the first hit among the
directives.
-/

namespace CodeHighlight

open Directives (followsFocus)

/-- A search that is given the characters passed, the nearest first, and the text ahead. -/
abbrev Scanner (α : Type) := List Char → List Char → Option α

variable {α : Type}

/-- The scanner finds nothing in a piece and goes on behind it. -/
def Passes (scan : Scanner α) (before piece rest : List Char) : Prop :=
  scan before (piece ++ rest) = scan (piece.reverse ++ before) rest

namespace Passes

/-- Nothing is passed without ado. -/
theorem nil (scan : Scanner α) (before rest : List Char) : Passes scan before [] rest := rfl

/-- One piece is passed after the other. -/
theorem append (scan : Scanner α) (before front back rest : List Char)
    (hfront : Passes scan before front (back ++ rest))
    (hback : Passes scan (front.reverse ++ before) back rest) :
    Passes scan before (front ++ back) rest := by
  rw [Passes, List.append_assoc, hfront, hback, List.reverse_append, List.append_assoc]

/-- One character is passed before the others. -/
theorem cons (scan : Scanner α) (before : List Char) (c : Char) (piece rest : List Char)
    (hc : scan before (c :: (piece ++ rest)) = scan (c :: before) (piece ++ rest))
    (hpiece : Passes scan (c :: before) piece rest) : Passes scan before (c :: piece) rest :=
  append scan before [c] piece rest hc hpiece

/-- What is passed holds no hit. -/
theorem or_eq (scan : Scanner α) (before piece rest : List Char) (hit : Option α)
    (h : Passes scan before piece rest) (hhit : hit = none) :
    scan before (piece ++ rest) = hit.or (scan (piece.reverse ++ before) rest) := by
  rw [hhit, Option.none_or]
  exact h

/-- A piece is passed if each of its characters is, wherever it stands. -/
theorem of_forall (scan : Scanner α) (ok : Char → Prop)
    (h : ∀ c, ok c → ∀ before rest, scan before (c :: rest) = scan (c :: before) rest)
    (before piece rest : List Char) (hpiece : ∀ c ∈ piece, ok c) :
    Passes scan before piece rest := by
  induction piece generalizing before with
  | nil => exact nil scan before rest
  | cons c more ih =>
    apply cons
    · exact h c (hpiece c List.mem_cons_self) before _
    · exact ih (c :: before) fun d hd => hpiece d (List.mem_cons_of_mem _ hd)

end Passes

/-- The characters that directives begin with. -/
def openers : List Char := ['{', 'f', 's', 'l', '+', '-']

/-- The text is empty or begins as a directive does. -/
def Opens (text : List Char) : Prop := ∀ c ∈ text.head?, c ∈ openers

/-- The text does not carry on a directive that ends before it. -/
structure Calm (text : List Char) : Prop where
  no_digit : Text.startsWith Text.isDigit text = false
  no_letter : ∀ c ∈ text.head?, c ≠ 'h'
  no_number : ∀ c rest, text = c :: rest → Text.startsWith Text.isDigit rest = true →
    c ≠ ',' ∧ c ≠ ':'

/-- What opens a directive is no digit. -/
theorem Opens.no_digit (text : List Char) (h : Opens text) :
    Text.startsWith Text.isDigit text = false := by
  cases text with
  | nil => rfl
  | cons c rest =>
    have hopeners : (openers.all fun d => !Text.isDigit d) = true := by
      decide +kernel
    have hc := List.all_eq_true.mp hopeners c (h c rfl)
    rwa [Bool.not_eq_true'] at hc

/-- What opens a directive carries on none. -/
theorem Opens.calm (text : List Char) (h : Opens text) : Calm text := by
  constructor
  · exact h.no_digit
  · intro c hc
    rintro rfl
    exact absurd (h 'h' hc) (by decide)
  · intro c rest htext _
    have hc : c ∈ openers := h c (by rw [htext]; rfl)
    constructor
    · rintro rfl
      exact absurd hc (by decide)
    · rintro rfl
      exact absurd hc (by decide)

namespace Separator

/-- A letter of ASCII does not occur in a separator. -/
theorem ne_of_mem (s : Separator) (c d : Char) (hc : c ∈ s.chars) (hd : d.isAlpha = true) :
    c ≠ d := by
  rintro rfl
  rw [(s.plain c hc).2.2.1] at hd
  cases hd

/-- No separator carries on a directive. -/
theorem calm (s : Separator) (rest : List Char) (h : Opens rest) : Calm (s.chars ++ rest) := by
  cases hs : s.chars with
  | nil => exact h.calm
  | cons c more =>
    have hplain : ∀ d ∈ c :: more, Text.isDigit d = false := by
      intro d hd
      exact (s.plain d (by rw [hs]; exact hd)).2.2.2
    have hmore : Text.startsWith Text.isDigit (more ++ rest) = false := by
      cases more with
      | nil => exact h.no_digit
      | cons d _ => exact hplain d (List.mem_cons_of_mem _ List.mem_cons_self)
    constructor
    · exact hplain c List.mem_cons_self
    · intro d hd
      have hcd : c = d := Option.some.inj hd
      rw [← hcd]
      exact s.ne_of_mem c 'h' (by rw [hs]; exact List.mem_cons_self) rfl
    · intro d tail htext hdigit
      obtain ⟨-, rfl⟩ := List.cons.inj htext
      exact Bool.noConfusion (hmore.symm.trans hdigit)

end Separator

/-- Every directive opens as a directive does. -/
theorem WrittenDirective.opens (d : WrittenDirective) (rest : List Char) :
    Opens (d.text ++ rest) := by
  cases d with
  | number f =>
    change Opens (f.name ++ WrittenFlag.suffix f.start ++ rest)
    rcases f.name_eq with h | h
    · rw [h]
      rintro c ⟨⟩
      decide
    · rw [h]
      rintro c ⟨⟩
      decide
  | highlight _ | focus _ | added _ | removed _ =>
    rintro c ⟨⟩
    decide

/-- Parts open as their first directive does. -/
theorem WrittenParts.opens (parts : WrittenParts) : Opens parts.text := by
  cases parts with
  | nil => rintro c ⟨⟩
  | cons part rest =>
    rw [text_cons]
    exact part.1.opens _

/-- Behind a piece without the letter `s` no focus keyword ends. -/
theorem followsFocus_append (before piece : List Char) (hpiece : 's' ∉ piece)
    (h : piece = [] → followsFocus before = false) :
    followsFocus (piece.reverse ++ before) = false := by
  cases hp : piece.reverse with
  | nil => exact h (List.reverse_eq_nil_iff.mp hp)
  | cons c rest =>
    have hc : c ≠ 's' := by
      rintro rfl
      apply hpiece
      rw [← List.mem_reverse, hp]
      exact List.mem_cons_self
    simp [followsFocus, Directives.focusReversed, List.isPrefixOf, Ne.symm hc]

/-- The letters that begin a flag do not occur in a group. -/
theorem not_mem_letter (c : Char) (hc : c = 's' ∨ c = 'l') (s : WrittenSelector) :
    c ∉ WrittenDirective.group s := by
  rcases hc with rfl | rfl
  · exact WrittenDirective.not_mem_group s 's' (by decide)
      (s.not_mem_text 's' (Text.isDigit_eq_false _ (by decide)) (by decide) (by decide))
  · exact WrittenDirective.not_mem_group s 'l' (by decide)
      (s.not_mem_text 'l' (Text.isDigit_eq_false _ (by decide)) (by decide) (by decide))

/-- Behind a directive no focus keyword ends. -/
theorem WrittenDirective.followsFocus_text (d : WrittenDirective) (before : List Char)
    (h : followsFocus before = false) : followsFocus (d.text.reverse ++ before) = false := by
  cases d with
  | highlight s => exact followsFocus_append before _ (not_mem_letter 's' (Or.inl rfl) s) fun _ => h
  | focus s =>
    rw [text, List.reverse_append, List.append_assoc]
    apply followsFocus_append
    · exact not_mem_letter 's' (Or.inl rfl) s
    · intro hnil
      cases hnil
  | number f =>
    change followsFocus ((f.name ++ WrittenFlag.suffix f.start).reverse ++ before) = false
    rw [List.reverse_append, List.append_assoc]
    apply followsFocus_append
    · exact WrittenFlag.not_mem_suffix f.start 's' (Text.isDigit_eq_false _ (by decide)) (by decide)
    · intro _
      rcases f.name_eq with hname | hname
      · rw [hname]
        rfl
      · rw [hname]
        rfl
  | added n | removed n =>
    apply followsFocus_append
    · rw [text, List.mem_cons, not_or]
      exact ⟨by decide, n.not_mem_text 's' (Text.isDigit_eq_false _ (by decide)) (by decide)⟩
    · exact fun _ => h

/-- Behind a separator no focus keyword ends that does not end before it. -/
theorem Separator.followsFocus_chars (s : Separator) (before : List Char)
    (h : followsFocus before = false) : followsFocus (s.chars.reverse ++ before) = false := by
  apply followsFocus_append
  · exact fun hs => s.ne_of_mem 's' 's' hs rfl rfl
  · exact fun _ => h

/-- The scanner finds in a directive what `hit` says, and passes it and all separators otherwise. -/
structure Reads (scan : Scanner α) (hit : WrittenDirective → Option α) : Prop where
  nil : ∀ before, scan before [] = none
  separator : ∀ (s : Separator) before rest, Opens rest → Passes scan before s.chars rest
  directive : ∀ (d : WrittenDirective) before rest, followsFocus before = false →
    (∀ n, d = .removed n → ∀ c ∈ before.head?, Text.isDigit c = false) → Calm rest →
    scan before (d.text ++ rest) = (hit d).or (scan (d.text.reverse ++ before) rest)

/-- A scanner that reads directives finds the first hit among those of a text. -/
theorem Reads.text (scan : Scanner α) (hit : WrittenDirective → Option α) (h : Reads scan hit)
    (parts : WrittenParts) (before : List Char) (hclear : followsFocus before = false)
    (hapart : ∀ front n s back, parts = front ++ (.removed n, s) :: back →
      ∀ c ∈ ((WrittenParts.text front).reverse ++ before).head?, Text.isDigit c = false) :
    scan before parts.text = parts.directives.findSome? hit := by
  -- What stands before the parts grows; no focus keyword ever ends there.
  induction parts generalizing before with
  | nil => exact h.nil before
  | cons part rest ih =>
    obtain ⟨d, s⟩ := part
    have hfirst : scan before (WrittenParts.text ((d, s) :: rest)) =
        (hit d).or (scan (d.text.reverse ++ before) (s.chars ++ WrittenParts.text rest)) := by
      rw [WrittenParts.text_cons]
      apply h.directive d before _ hclear
      · rintro n rfl
        exact hapart [] n s rest rfl
      · exact s.calm _ (WrittenParts.opens rest)
    have hpassed := h.separator s (d.text.reverse ++ before) _ (WrittenParts.opens rest)
    have hrest : scan (s.chars.reverse ++ (d.text.reverse ++ before)) (WrittenParts.text rest) =
        (WrittenParts.directives rest).findSome? hit := by
      apply ih
      · exact s.followsFocus_chars _ (d.followsFocus_text before hclear)
      · intro front n t back hparts
        have hbehind := hapart ((d, s) :: front) n t back (by rw [hparts]; rfl)
        rwa [WrittenParts.text_cons, List.reverse_append, List.reverse_append, List.append_assoc,
          List.append_assoc] at hbehind
    rw [hfirst, hpassed, hrest]
    change _ = (d :: WrittenParts.directives rest).findSome? hit
    rw [List.findSome?_cons]
    cases hit d with
    | none => rfl
    | some _ => rfl

end CodeHighlight
