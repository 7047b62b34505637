import CodeHighlight.Proofs.Directives.Search

/-!
# Closed groups

A brace that opens is closed when the next brace closes. The first closed group that follows the
focus keyword decides the focused lines, the first one that does not decides the highlighted lines.
A group that is no selector decides as well: the field is absent then, whatever stands behind.
-/

namespace CodeHighlight

/-- A closed pair of braces in a text: what stands before it, what it encloses, which holds no
brace, and what stands behind it. -/
structure ClosedGroup where
  front : List Char
  body : List Char
  back : List Char
  plain : ∀ c ∈ body, c ≠ '{' ∧ c ≠ '}'

namespace ClosedGroup

/-- The text around the group. The brace opens at the place that `front` ends at. -/
def text (g : ClosedGroup) : List Char := g.front ++ '{' :: (g.body ++ '}' :: g.back)

/-- The focus keyword stands directly before the group. -/
def focused (g : ClosedGroup) : Bool := "focus".toList.isSuffixOf g.front

/-- The group with another text behind it. -/
def withBack (g : ClosedGroup) (back : List Char) : ClosedGroup := { g with back := back }

/-- The group opens first among those of its kind in a text. -/
structure IsFirst (kind : Bool) (source : List Char) (g : ClosedGroup) : Prop where
  text_eq : g.text = source
  focused_eq : g.focused = kind
  least : ∀ other : ClosedGroup, other.text = source → other.focused = kind →
    g.front.length ≤ other.front.length

/-- Where there is a group of a kind there is a first one. -/
theorem exists_isFirst (kind : Bool) (source : List Char) (g : ClosedGroup)
    (htext : g.text = source) (hkind : g.focused = kind) :
    ∃ first : ClosedGroup, first.IsFirst kind source := by
  obtain ⟨first, ⟨hfirst, hsame⟩, hleast⟩ := exists_least
    (fun g : ClosedGroup => g.text = source ∧ g.focused = kind) (·.front.length) g ⟨htext, hkind⟩
  exact ⟨first, hfirst, hsame, fun other hother hkind => hleast other ⟨hother, hkind⟩⟩

/-- A group that opens before another one also closes before that opens. -/
theorem exists_between (g other : ClosedGroup) (htext : other.text = g.text)
    (hbefore : other.front.length < g.front.length) :
    ∃ between, g.front = other.front ++ '{' :: (other.body ++ '}' :: between) := by
  rw [text, text, List.append_eq_append_iff] at htext
  rcases htext with ⟨mid, hfront, hmid⟩ | ⟨mid, hfront, -⟩
  · rcases List.cons_eq_append_iff.mp hmid with ⟨rfl, -⟩ | ⟨inner, rfl, hinner⟩
    · rw [hfront, List.append_nil] at hbefore
      exact absurd hbefore (Nat.lt_irrefl _)
    · rcases List.append_eq_append_iff.mp hinner with ⟨rest, rfl, hrest⟩ | ⟨rest, hbody, hrest⟩
      · rcases List.cons_eq_append_iff.mp hrest with ⟨-, hbrace⟩ | ⟨between, rfl, -⟩
        · cases hbrace
        · exact ⟨between, hfront⟩
      · -- The other body would reach over the opening brace.
        rcases List.cons_eq_append_iff.mp hrest with ⟨-, hbrace⟩ | ⟨more, rfl, -⟩
        · cases hbrace
        · have hin : '{' ∈ other.body := by
            rw [hbody]
            exact List.mem_append_right _ List.mem_cons_self
          exact absurd rfl (other.plain '{' hin).1
  · rw [hfront, List.length_append] at hbefore
    omega

/-- A group stays the first when another text stands behind it. -/
theorem IsFirst.withBack (kind : Bool) (source : List Char) (g : ClosedGroup)
    (h : g.IsFirst kind source) (back : List Char) :
    (g.withBack back).IsFirst kind (g.withBack back).text := by
  refine ⟨rfl, h.focused_eq, ?_⟩
  intro other htext hkind
  by_cases hbefore : other.front.length < g.front.length
  · obtain ⟨between, hfront⟩ := exists_between (g.withBack back) other htext hbefore
    have hsource :
        (other.withBack (between ++ '{' :: (g.body ++ '}' :: g.back))).text = source := by
      rw [← h.text_eq, text, text, show g.front = _ from hfront]
      simp [ClosedGroup.withBack]
    have hleast := h.least _ hsource hkind
    exact hleast
  · exact Nat.le_of_not_lt hbefore

end ClosedGroup

namespace Directives

/-- The body of the group that opens at a place, if it is of the kind. -/
def groupAt? (kind : Bool) : Scanner (List Char)
  | _, [] => none
  | before, c :: rest => if c = '{' ∧ followsFocus before = kind then groupBody? rest else none

/-- The lookup of groups takes the first group of the kind. -/
theorem searches_firstGroup? (kind : Bool) : Searches (firstGroup? kind) (groupAt? kind) := by
  constructor
  · exact fun before => rfl
  · intro before c rest
    rw [firstGroup?, groupAt?]
    by_cases h : c = '{' ∧ followsFocus before = kind
    · rw [if_pos h, if_pos h]
    · rw [if_neg h, if_neg h, Option.none_or]

/-- A body ends at the first brace, and that brace closes. -/
theorem groupBody?_eq_some_iff (text body : List Char) :
    groupBody? text = some body ↔
      (∀ c ∈ body, c ≠ '{' ∧ c ≠ '}') ∧ ∃ back, text = body ++ '}' :: back := by
  have hplain : ∀ c : Char, (c ≠ '{' && c ≠ '}') = true ↔ c ≠ '{' ∧ c ≠ '}' := by
    intro c
    rw [Bool.and_eq_true, decide_eq_true_eq, decide_eq_true_eq]
  constructor
  · intro h
    rw [groupBody?] at h
    split at h
    · next back hdrop =>
      obtain rfl := Option.some.inj h
      refine ⟨fun c hc => (hplain c).mp (List.all_eq_true.mp List.all_takeWhile c hc), back, ?_⟩
      rw [← hdrop, List.takeWhile_append_dropWhile]
    · cases h
  · rintro ⟨hbody, back, rfl⟩
    have hinside := fun c hc => (hplain c).mpr (hbody c hc)
    rw [groupBody?, Text.dropWhile_run _ body _ hinside rfl,
      Text.takeWhile_run _ body _ hinside rfl]
    rfl

private theorem followsFocus_reverse (g : ClosedGroup) :
    followsFocus g.front.reverse = g.focused := rfl

private theorem groupAt?_group (g : ClosedGroup) :
    groupAt? g.focused g.front.reverse ('{' :: (g.body ++ '}' :: g.back)) = some g.body := by
  rw [groupAt?, if_pos ⟨rfl, followsFocus_reverse g⟩, groupBody?_eq_some_iff]
  exact ⟨g.plain, g.back, rfl⟩

/-- What is found at a place is a closed group that opens there. -/
theorem exists_group_of_groupAt? (kind : Bool) (front rest body : List Char)
    (h : groupAt? kind front.reverse rest = some body) :
    ∃ g : ClosedGroup, g.front = front ∧ g.text = front ++ rest ∧ g.focused = kind := by
  cases rest with
  | nil => cases h
  | cons c rest =>
    rw [groupAt?, Option.ite_none_right_eq_some, groupBody?_eq_some_iff] at h
    obtain ⟨⟨rfl, hkind⟩, hplain, back, rfl⟩ := h
    exact ⟨⟨front, body, back, hplain⟩, rfl, rfl, hkind⟩

/-- The first group of a kind is found. -/
theorem firstGroup?_of_isFirst (kind : Bool) (source : List Char) (g : ClosedGroup)
    (h : g.IsFirst kind source) : firstGroup? kind [] source = some g.body := by
  rw [← h.text_eq]
  apply (searches_firstGroup? kind).eq_some
  · rw [← h.focused_eq]
    exact groupAt?_group g
  · intro start back hfront hback
    cases hfound : groupAt? kind start.reverse (back ++ '{' :: (g.body ++ '}' :: g.back)) with
    | none => rfl
    | some body =>
      obtain ⟨other, hother, htext, hkind⟩ := exists_group_of_groupAt? kind start _ body hfound
      rw [← List.append_assoc, ← hfront] at htext
      have hleast := h.least other (htext.trans h.text_eq) hkind
      have hlength := List.length_pos_iff.mpr hback
      rw [hother, hfront, List.length_append] at hleast
      omega

/-- Nothing is found where no group of the kind is closed. -/
theorem firstGroup?_of_no_group (kind : Bool) (source : List Char)
    (h : ∀ g : ClosedGroup, g.text = source → g.focused ≠ kind) :
    firstGroup? kind [] source = none := by
  apply (searches_firstGroup? kind).eq_none
  intro front rest hsource
  cases hfound : groupAt? kind front.reverse rest with
  | none => rfl
  | some body =>
    obtain ⟨g, -, htext, hkind⟩ := exists_group_of_groupAt? kind front rest body hfound
    exact absurd hkind (h g (htext.trans hsource.symm))

/-- The first closed group of a kind decides a field: the field is what `read` makes of its body,
nothing behind the group changes it, and it is absent where no group of the kind is closed. -/
structure DecidedByFirst {α : Type} (kind : Bool) (field : Directives → Option α)
    (read : List Char → Option α) (text : String) : Prop where
  exists_first : ∀ g : ClosedGroup, g.text = text.toList → g.focused = kind →
    ∃ first : ClosedGroup, first.IsFirst kind text.toList
  read_first : ∀ g : ClosedGroup, g.IsFirst kind text.toList →
    field (ofMeta (some text)) = read g.body
  rest_ignored : ∀ g : ClosedGroup, g.IsFirst kind text.toList → ∀ back,
    field (ofMeta (some (String.ofList (g.withBack back).text))) = field (ofMeta (some text))
  absent : (∀ g : ClosedGroup, g.text = text.toList → g.focused ≠ kind) →
    field (ofMeta (some text)) = none

/-- A field that is read from what the lookup finds is decided by the first group. -/
theorem decidedByFirst {α : Type} (kind : Bool) (field : Directives → Option α)
    (read : List Char → Option α)
    (hfield : ∀ text, field (ofMeta (some text)) = (firstGroup? kind [] text.toList).bind read)
    (text : String) : DecidedByFirst kind field read text := by
  have hread : ∀ g : ClosedGroup, g.IsFirst kind text.toList →
      field (ofMeta (some text)) = read g.body := by
    intro g hg
    rw [hfield, firstGroup?_of_isFirst kind _ g hg, Option.bind_some]
  refine ⟨ClosedGroup.exists_isFirst kind text.toList, hread, ?_, ?_⟩
  · intro g hg back
    rw [hread g hg, hfield, String.toList_ofList,
      firstGroup?_of_isFirst kind _ (g.withBack back) (hg.withBack kind text.toList g back),
      Option.bind_some]
    rfl
  · intro hnone
    rw [hfield, firstGroup?_of_no_group kind _ hnone, Option.bind_none]

/-- A selector with the blanks around its items left out. -/
def selectorWithoutBlanks? (body : List Char) : Option String :=
  (LineSet.ofSelector? body).map fun _ =>
    String.ofList (Text.joinWith [','] ((Text.splitAt ',' body).map Text.trim))

/-- The highlighted lines are decided by the first closed group that does not follow the focus
keyword, the focused lines by the first one that does. -/
theorem ofMeta_decidedByFirst (text : String) :
    DecidedByFirst false Directives.highlighted selectorWithoutBlanks? text ∧
      DecidedByFirst true Directives.focus LineSet.ofSelector? text := by
  constructor
  · apply decidedByFirst
    intro text
    change highlighted? text.toList = _
    rw [highlighted?]
    cases firstGroup? false [] text.toList with
    | none => rfl
    | some group =>
      change (LineSet.ofSelector? group).bind _ = selectorWithoutBlanks? group
      rw [selectorWithoutBlanks?]
      cases LineSet.ofSelector? group with
      | none => rfl
      | some _ => rfl
  · apply decidedByFirst
    intro text
    rfl

/-- The brace at the front and the one behind the first `focus` are not closed. -/
example : highlighted? "\x7ba{1}focus\x7b focus{2}{3}".toList = some "1" ∧
    firstGroup? true [] "\x7ba{1}focus\x7b focus{2}{3}".toList = some ['2'] := by
  decide +kernel

end Directives

end CodeHighlight
