import CodeHighlight.Proofs.Text.Reference
import CodeHighlight.Proofs.Text.Split

/-!
# Tags and the text behind them

Markup is read as a row of parts: a tag and the text behind it, up to the next tag. The reader cuts
at the angle brackets and inside a tag at the quotation marks, and refuses what does not fit. Parts
whose values and texts are escaped are read as they were, whatever those values and texts are.
-/

namespace CodeHighlight.Markup

open Text (QuoteSpelling Plain)

/-- A character of the name of an element or an attribute. -/
def isNameChar (c : Char) : Bool := c.isAlphanum || c = '-'

/-- The name of an element or an attribute. -/
structure Name where
  chars : List Char
  nonempty : chars ≠ []
  isNameChar_of_mem : ∀ c ∈ chars, isNameChar c = true
deriving Repr, DecidableEq

/-- A character that no name holds. -/
theorem Name.not_mem (name : Name) (c : Char) (hc : isNameChar c = false) : c ∉ name.chars := by
  intro hmem
  rw [name.isNameChar_of_mem c hmem] at hc
  cases hc

/-- A tag. -/
inductive Tag where
  /-- Opens an element; every attribute has a key and a value. -/
  | opening (name : Name) (attributes : List (Name × List Char))
  | closing (name : Name)
deriving Repr, DecidableEq

/-- A tag and the text up to the next tag. -/
structure Part where
  tag : Tag
  text : List Char
deriving Repr, DecidableEq

/-! ## Writing -/

/-- An attribute as it is written. -/
def writeAttribute (a : Name × List Char) : List Char :=
  ' ' :: (a.1.chars ++ '=' :: '"' :: (a.2 ++ ['"']))

/-- A tag without its angle brackets. -/
def Tag.inside : Tag → List Char
  | .opening name attributes => name.chars ++ attributes.flatMap writeAttribute
  | .closing name => '/' :: name.chars

/-- A part without the bracket at its front. -/
def Part.inside (p : Part) : List Char := p.tag.inside ++ '>' :: p.text

/-- Parts one after the other. -/
def written (parts : List Part) : List Char := parts.flatMap fun p => '<' :: p.inside

/-! ## Reading -/

/-- The name that a text is. -/
def name? (text : List Char) : Option Name :=
  if h : text ≠ [] ∧ text.all isNameChar = true then
    some ⟨text, h.1, List.all_eq_true.mp h.2⟩
  else none

/-- The key in front of a value: a blank, a name and the equals sign. -/
def key? : List Char → Option Name
  | ' ' :: text => if text.getLast? = some '=' then name? text.dropLast else none
  | _ => none

/-- The attributes of a tag whose text was cut at the quotation marks. -/
def attributes? : List (List Char) → Option (List (Name × List Char))
  | [[]] => some []
  | front :: value :: rest => do
    let key ← key? front
    let more ← attributes? rest
    return (key, value) :: more
  | _ => none

/-- The tag between two angle brackets. -/
def Tag.read? : List Char → Option Tag
  | '/' :: name => (name? name).map .closing
  | text => do
    let name ← name? (text.takeWhile isNameChar)
    let attributes ← attributes? (Text.splitAt '"' (text.drop name.chars.length))
    return .opening name attributes

/-- The part behind an angle bracket, up to the next one. -/
def Part.read? (text : List Char) : Option Part :=
  match Text.splitAt '>' text with
  | [inside, behind] => (Tag.read? inside).map (⟨·, behind⟩)
  | _ => none

/-- The parts of a markup, as they are written. -/
def parts? (text : List Char) : Option (List Part) :=
  match Text.splitAt '<' text with
  | [] :: pieces => pieces.mapM Part.read?
  | _ => none

/-- Changes the values of a tag. -/
def Tag.mapValues (f : List Char → List Char) : Tag → Tag
  | .opening name attributes => .opening name (attributes.map fun a => (a.1, f a.2))
  | .closing name => .closing name

/-- Changes the values and the text of a part. -/
def Part.map (f : List Char → List Char) (p : Part) : Part := ⟨p.tag.mapValues f, f p.text⟩

/-- An opening tag with changed values and the changed text behind it, as they are written. -/
@[simp] theorem Part.inside_map_opening (f : List Char → List Char) (name : Name)
    (attributes : List (Name × List Char)) (text : List Char) :
    (Part.map f ⟨.opening name attributes, text⟩).inside =
      name.chars ++ attributes.flatMap (fun a => writeAttribute (a.1, f a.2)) ++
        '>' :: f text := by
  simp [map, inside, Tag.mapValues, Tag.inside, List.flatMap_map]

/-- A closing tag and the changed text behind it, as they are written. -/
@[simp] theorem Part.inside_map_closing (f : List Char → List Char) (name : Name)
    (text : List Char) :
    (Part.map f ⟨.closing name, text⟩).inside = '/' :: (name.chars ++ '>' :: f text) := rfl

/-- The parts of a markup, their values and texts decoded. -/
def read? (text : List Char) : Option (List Part) :=
  (parts? text).map fun parts => parts.map (.map Text.decode)

/-- The values of a tag's attributes. -/
def Tag.values : Tag → List (List Char)
  | .opening _ attributes => attributes.map Prod.snd
  | .closing _ => []

/-- No value and no text of the part may begin or end a tag or an attribute. -/
def Part.IsPlain (p : Part) : Prop := Plain p.text ∧ ∀ value ∈ p.tag.values, Plain value

/-- Outside its tags, and in the values inside them, the markup has no angle bracket and no
quotation mark. -/
def IsClean (text : List Char) : Prop :=
  ∃ parts, parts? text = some parts ∧ written parts = text ∧ ∀ p ∈ parts, p.IsPlain

/-! ## What is written is read -/

/-- The characters of a name are read as the name. -/
theorem name?_chars (name : Name) : name? name.chars = some name :=
  dif_pos ⟨name.nonempty, List.all_eq_true.mpr name.isNameChar_of_mem⟩

/-- A plain text holds no character that begins or ends a tag or an attribute. -/
theorem not_mem_of_plain {text : List Char} (h : Plain text) (c : Char)
    (hc : Text.isMarkup c = true) : c ∉ text := by
  intro hmem
  rw [h c hmem] at hc
  cases hc

private theorem key?_chars (key : Name) : key? (' ' :: (key.chars ++ ['='])) = some key := by
  have hlast : (key.chars ++ ['=']).getLast? = some '=' := by simp
  have hkey : (key.chars ++ ['=']).dropLast = key.chars := by simp
  rw [key?, if_pos hlast, hkey, name?_chars]

/-- The pieces of written attributes between quotation marks. -/
def attributePieces (attributes : List (Name × List Char)) : List (List Char) :=
  attributes.flatMap (fun a => [' ' :: (a.1.chars ++ ['=']), a.2]) ++ [[]]

/-- The pieces of the first attribute stand before those of the others. -/
theorem attributePieces_cons (a : Name × List Char) (rest : List (Name × List Char)) :
    attributePieces (a :: rest) = (' ' :: (a.1.chars ++ ['='])) :: a.2 :: attributePieces rest :=
  rfl

/-- There is a piece behind the last quotation mark. -/
theorem attributePieces_ne_nil (attributes : List (Name × List Char)) :
    attributePieces attributes ≠ [] := by simp [attributePieces]

private theorem flatMap_writeAttribute (attributes : List (Name × List Char)) :
    attributes.flatMap writeAttribute = Text.joinWith ['"'] (attributePieces attributes) := by
  induction attributes with
  | nil => rfl
  | cons a rest ih =>
    rw [attributePieces_cons, Text.joinWith_cons _ _ _ (List.cons_ne_nil _ _),
      Text.joinWith_cons _ _ _ (attributePieces_ne_nil rest), ← ih, List.flatMap_cons]
    simp [writeAttribute]

private theorem attributes?_attributePieces (attributes : List (Name × List Char)) :
    attributes? (attributePieces attributes) = some attributes := by
  induction attributes with
  | nil => rfl
  | cons a rest ih =>
    rw [attributePieces_cons, attributes?, key?_chars, ih]
    rfl

private theorem not_mem_attributePieces (attributes : List (Name × List Char))
    (hplain : ∀ a ∈ attributes, Plain a.2) (piece : List Char)
    (h : piece ∈ attributePieces attributes) : '"' ∉ piece := by
  rw [attributePieces, List.mem_append, List.mem_flatMap, List.mem_singleton] at h
  rcases h with ⟨a, ha, hpiece⟩ | rfl
  · rw [List.mem_cons, List.mem_singleton] at hpiece
    rcases hpiece with rfl | rfl
    · have hname := a.1.not_mem '"' (by decide)
      simpa using hname
    · exact not_mem_of_plain (hplain a ha) '"' (by decide)
  · exact List.not_mem_nil

/-- No angle bracket stands in a tag with plain values. -/
theorem Tag.not_mem_inside (tag : Tag) (hplain : ∀ v ∈ tag.values, Plain v) (c : Char)
    (hc : c = '<' ∨ c = '>') : c ∉ tag.inside := by
  have hmarkup : Text.isMarkup c = true := by rcases hc with rfl | rfl <;> decide
  have hname : isNameChar c = false := by rcases hc with rfl | rfl <;> decide
  cases tag with
  | closing name =>
    have hmem := name.not_mem c hname
    rcases hc with rfl | rfl <;> simpa [inside] using hmem
  | opening name attributes =>
    have hattribute : ∀ a ∈ attributes, c ∉ writeAttribute a := by
      intro a ha
      have hkey := a.1.not_mem c hname
      have hvalue := not_mem_of_plain (hplain a.2 (List.mem_map_of_mem ha)) c hmarkup
      rcases hc with rfl | rfl <;> simp [writeAttribute, hkey, hvalue]
    rw [inside, List.mem_append, List.mem_flatMap, not_or]
    refine ⟨name.not_mem c hname, ?_⟩
    rintro ⟨a, ha, hin⟩
    exact hattribute a ha hin

/-- A tag with plain values is read as it was written. -/
theorem Tag.read?_inside (tag : Tag) (hplain : ∀ v ∈ tag.values, Plain v) :
    Tag.read? tag.inside = some tag := by
  cases tag with
  | closing name =>
    rw [inside, read?, name?_chars]
    rfl
  | opening name attributes =>
    have hvalues : ∀ a ∈ attributes, Plain a.2 := fun a ha => hplain a.2 (List.mem_map_of_mem ha)
    have hbehind : Text.startsWith isNameChar (attributes.flatMap writeAttribute) = false := by
      cases attributes with
      | nil => rfl
      | cons a rest => rfl
    have htake : (name.chars ++ attributes.flatMap writeAttribute).takeWhile isNameChar =
        name.chars :=
      Text.takeWhile_run isNameChar name.chars _ name.isNameChar_of_mem hbehind
    have hsplit :
        Text.splitAt '"' (attributes.flatMap writeAttribute) = attributePieces attributes := by
      rw [flatMap_writeAttribute]
      exact Text.splitAt_joinWith '"' _ (attributePieces_ne_nil attributes)
        (not_mem_attributePieces attributes hvalues)
    -- A name begins with no slash, so the tag is not taken for a closing one.
    have hslash : ∀ rest, name.chars ++ attributes.flatMap writeAttribute = '/' :: rest →
        False := by
      intro rest he
      cases hname : name.chars with
      | nil => exact name.nonempty hname
      | cons c more =>
        rw [hname, List.cons_append, List.cons.injEq] at he
        have hmem : '/' ∈ name.chars := by
          rw [hname, he.1]
          exact List.mem_cons_self
        exact name.not_mem '/' (by decide) hmem
    rw [inside, read?, htake, name?_chars]
    · simp only [Option.bind_eq_bind, Option.bind_some, List.drop_left, hsplit,
        attributes?_attributePieces, Option.pure_def]
    · exact hslash

/-- A plain part is read as it was written. -/
theorem Part.read?_inside (p : Part) (h : p.IsPlain) : Part.read? p.inside = some p := by
  have hinside := p.tag.not_mem_inside h.2 '>' (.inr rfl)
  have hbehind := not_mem_of_plain h.1 '>' (by decide)
  have hsplit : Text.splitAt '>' p.inside = [p.tag.inside, p.text] := by
    have hjoin : p.inside = Text.joinWith ['>'] [p.tag.inside, p.text] := by
      simp [inside, Text.joinWith]
    rw [hjoin]
    apply Text.splitAt_joinWith
    · exact List.cons_ne_nil _ _
    · simp [hinside, hbehind]
  rw [read?, hsplit]
  dsimp only
  rw [Tag.read?_inside p.tag h.2, Option.map_some]

/-- Plain parts are read as they were written. -/
theorem parts?_written (parts : List Part) (h : ∀ p ∈ parts, p.IsPlain) :
    parts? (written parts) = some parts := by
  have hpiece : ∀ piece ∈ [] :: parts.map Part.inside, '<' ∉ piece := by
    intro piece hp
    rcases List.mem_cons.mp hp with rfl | hp
    · exact List.not_mem_nil
    · obtain ⟨p, hmem, rfl⟩ := List.mem_map.mp hp
      have htag := p.tag.not_mem_inside (h p hmem).2 '<' (.inl rfl)
      have htext := not_mem_of_plain (h p hmem).1 '<' (by decide)
      simp [Part.inside, htag, htext]
  have hjoin : written parts = Text.joinWith ['<'] ([] :: parts.map Part.inside) := by
    rw [Text.joinWith_nil_cons, List.flatMap_map, written]
  have hread : (parts.map Part.inside).mapM Part.read? = some parts := by
    apply Text.mapM_map_some Part.inside Part.read? parts
    intro p hp
    exact p.read?_inside (h p hp)
  rw [parts?, hjoin, Text.splitAt_joinWith '<' _ (List.cons_ne_nil _ _) hpiece]
  exact hread

/-! ## Escaped parts -/

section

variable {spelling : QuoteSpelling}

/-- An escaped part is plain. -/
theorem Part.isPlain_map_escape (hs : spelling.Refers) (p : Part) :
    (p.map (Text.escape spelling)).IsPlain := by
  refine ⟨Text.plain_escape hs p.text, ?_⟩
  intro value hvalue
  obtain ⟨tag, text⟩ := p
  cases tag with
  | closing name => cases hvalue
  | opening name attributes =>
    rw [map, Tag.mapValues, Tag.values, List.map_map] at hvalue
    obtain ⟨a, -, rfl⟩ := List.mem_map.mp hvalue
    exact Text.plain_escape hs a.2

/-- An escaped part is decoded again. -/
theorem Part.map_decode_escape (hs : spelling.Refers) (p : Part) :
    (p.map (Text.escape spelling)).map Text.decode = p := by
  obtain ⟨tag, text⟩ := p
  cases tag <;> simp [Part.map, Tag.mapValues, Text.decode_escape hs, Function.comp_def]

/-- Escaped parts are clean, and they are read as they were. -/
theorem read?_written (hs : spelling.Refers) (parts : List Part) :
    let text := written (parts.map (.map (Text.escape spelling)))
    IsClean text ∧ read? text = some parts := by
  have hplain : ∀ p ∈ parts.map (Part.map (Text.escape spelling)), p.IsPlain := by
    intro p hp
    obtain ⟨q, -, rfl⟩ := List.mem_map.mp hp
    exact q.isPlain_map_escape hs
  have hread := parts?_written _ hplain
  have hdecode : Part.map Text.decode ∘ Part.map (Text.escape spelling) = id := by
    funext p
    exact p.map_decode_escape hs
  refine ⟨⟨_, hread, rfl, hplain⟩, ?_⟩
  rw [read?, hread, Option.map_some, List.map_map, hdecode, List.map_id]

end

end CodeHighlight.Markup
