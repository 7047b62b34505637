import CodeHighlight.Proofs.Block.Pieces
import Mathlib.Data.List.Induction
import Mathlib.Data.List.Pairwise

/-!
# Tiles of a text

The pieces of a block's tokens are cut from the tokens one after the other and tile their text. In
the lines of a tiled text every piece stands behind what the pieces before it make up, pieces of one
line follow one another, and every unit of a line is held by a piece.
-/

namespace CodeHighlight

open Text (Position)

/-- The parts of a token between its line feeds that are not empty, with the key of its kind. -/
def Token.shares (token : Token) : List (Option String × List Char) :=
  ((Text.splitAt '\n' token.text).filter fun part => !part.isEmpty).map
    fun part => (token.kind.key?, part)

namespace LineRange

/-- The range holds a unit of a line. -/
structure Holds (r : LineRange) (line unit : Nat) : Prop where
  line_eq : r.line = line
  first_le : r.first ≤ unit
  lt_last : unit < r.last

/-- The range ends before another one begins, in an earlier line or in the same. -/
def Before (r s : LineRange) : Prop := r.line < s.line ∨ r.line = s.line ∧ r.last ≤ s.first

/-- On one line, one of two ranges ends before the other begins. -/
def Apart (r s : LineRange) : Prop := r.line = s.line → r.last ≤ s.first ∨ s.last ≤ r.first

/-- Ranges of which one is before the other are apart. -/
theorem Before.apart {r s : LineRange} (h : r.Before s) : r.Apart s := by
  rintro hline
  rcases h with hlt | ⟨-, hle⟩
  · exact absurd hline (Nat.ne_of_lt hlt)
  · exact .inl hle

/-- Apart is either of two ranges from the other. -/
theorem Apart.symm {r s : LineRange} (h : r.Apart s) : s.Apart r := fun hline => (h hline.symm).symm

/-- Ranges apart hold no unit in common. -/
theorem Apart.not_holds {r s : LineRange} (h : r.Apart s) (line unit : Nat)
    (hr : r.Holds line unit) : ¬s.Holds line unit := by
  intro hs
  have hlt := hr.lt_last
  have hle := hr.first_le
  have hlt' := hs.lt_last
  have hle' := hs.first_le
  rcases h (hr.line_eq.trans hs.line_eq.symm) with h | h <;> omega

end LineRange

namespace Piece

/-- The piece stands behind the lines above and a front of its line: the range names this line and
the ends of the piece in it, and what stands before is what the earlier pieces make up. -/
structure InLine (p : Piece) (earlier : List Piece) (above : List (List Char))
    (front : List Char) : Prop where
  line_eq : p.range.line = above.length
  first_eq : p.range.first = Text.units front
  last_eq : p.range.last = Text.units (front ++ p.text)
  earlier_eq : earlier.flatMap Piece.text = above.flatten ++ front

/-- The range of a piece that stands in a line is not empty and no longer than the line. -/
theorem InLine.bounds {p : Piece} {earlier : List Piece} {above : List (List Char)}
    {front : List Char} (h : p.InLine earlier above front) (back : List Char) (hn : p.text ≠ []) :
    p.range.first < p.range.last ∧ p.range.last ≤ Text.units (front ++ p.text ++ back) := by
  have hpos : Text.units p.text ≠ 0 := fun e => hn (Text.units_eq_zero.mp e)
  rw [h.first_eq, h.last_eq, Text.units_append, Text.units_append (front ++ p.text),
    Text.units_append]
  omega

/-- Behind a piece that stands at a place is the end of its range. -/
theorem StandsAt.after_text {p : Piece} {place : Position} (h : p.StandsAt place []) :
    place.after p.text = ⟨p.range.line, p.range.last⟩ := by
  have hplace : place = ⟨p.range.line, p.range.first⟩ := h.begins
  rw [Position.after_of_not_mem place p.text h.inLine, h.ends, hplace]

namespace Tiles

variable {place : Position} {text : List Char} {pieces : List Piece}

/-- Every tile stands in a line of the text, behind what the tiles before it make up. -/
theorem exists_inLine (h : Tiles {} text pieces) (earlier : List Piece) (p : Piece)
    (later : List Piece) (hp : pieces = earlier ++ p :: later) :
    p.text ≠ [] ∧ ∃ above front back below,
      Text.splitAt '\n' text = above ++ (front ++ p.text ++ back) :: below ∧
      p.InLine earlier above front := by
  obtain ⟨before, after, htext, hstands, hbefore⟩ := h.exists_standsAt earlier p later hp
  refine ⟨hstands.nonempty, ?_⟩
  cases hs : Text.splitAt '\n' after with
  | nil => exact absurd hs (Text.splitAt_ne_nil '\n' after)
  | cons back below =>
    obtain ⟨above, front, hsplit, hplace, hflat⟩ := Text.exists_splitAt_append before
      (p.text ++ after) (p.text ++ back) below
      (Text.splitAt_append_of_not_mem '\n' p.text after back below hstands.inLine hs)
    have hbegins := hstands.begins
    rw [hplace, Position.mk.injEq] at hbegins
    refine ⟨above, front, back, below, ?_, hbegins.1.symm, hbegins.2.symm, ?_, ?_⟩
    · rw [htext, List.append_assoc, hsplit, List.append_assoc]
    · rw [hstands.ends, ← hbegins.2, Text.units_append]
    · rw [← hbefore, hflat]

/-- No tile begins before the place the tiles begin at. -/
theorem place_le (h : Tiles place text pieces) (p : Piece) (hp : p ∈ pieces) :
    place.line < p.range.line ∨ place.line = p.range.line ∧ place.column ≤ p.range.first := by
  induction h with
  | nil place => cases hp
  | feed place text pieces h ih =>
    refine .inl ?_
    rcases ih hp with hlt | ⟨heq, -⟩
    · exact Nat.lt_of_succ_lt hlt
    · exact Nat.lt_of_succ_le (Nat.le_of_eq heq)
  | piece place first text pieces hfirst h ih =>
    have hplace : place = ⟨first.range.line, first.range.first⟩ := hfirst.begins
    rcases List.mem_cons.mp hp with rfl | hp
    · rw [hplace]
      exact .inr ⟨rfl, Nat.le_refl _⟩
    · have hrest := ih hp
      rw [hfirst.after_text] at hrest
      have hends := hfirst.ends
      rw [hplace]
      dsimp only at hrest ⊢
      omega

/-- Every tile is before those that follow it. -/
theorem pairwise_before (h : Tiles place text pieces) :
    pieces.Pairwise fun p q => p.range.Before q.range := by
  induction h with
  | nil place => exact .nil
  | feed place text pieces h ih => exact ih
  | piece place first text pieces hfirst h ih =>
    refine .cons (fun q hq => ?_) ih
    have hplace := h.place_le q hq
    rwa [hfirst.after_text] at hplace

/-- Every unit of every line is held by a tile. -/
theorem exists_holds (h : Tiles place text pieces) (i unit : Nat) (line : List Char)
    (hline : (Text.splitAt '\n' text)[i]? = some line) (hunit : unit < Text.units line) :
    ∃ p ∈ pieces, p.range.Holds (place.line + i) ((if i = 0 then place.column else 0) + unit) := by
  induction h generalizing i unit line with
  | nil place =>
    rw [Text.splitAt, List.getElem?_singleton] at hline
    split at hline
    · rw [← Option.some.inj hline] at hunit
      exact absurd hunit (Nat.not_lt_zero unit)
    · cases hline
  | feed place text pieces h ih =>
    rw [Text.splitAt, if_pos rfl] at hline
    cases i with
    | zero =>
      rw [← Option.some.inj hline] at hunit
      exact absurd hunit (Nat.not_lt_zero unit)
    | succ i =>
      obtain ⟨p, hp, hholds⟩ := ih i unit line hline hunit
      rw [ite_self] at hholds
      rw [if_neg (Nat.succ_ne_zero i), Nat.add_comm i 1, ← Nat.add_assoc]
      exact ⟨p, hp, hholds⟩
  | piece place first text pieces hfirst h ih =>
    cases hs : Text.splitAt '\n' text with
    | nil => exact absurd hs (Text.splitAt_ne_nil '\n' text)
    | cons back more =>
      rw [Text.splitAt_append_of_not_mem '\n' first.text text back more hfirst.inLine hs] at hline
      rw [hs] at ih
      have hplace : place = ⟨first.range.line, first.range.first⟩ := hfirst.begins
      have hends := hfirst.ends
      rw [hfirst.after_text] at ih
      rw [hplace]
      cases i with
      | zero =>
        rw [List.getElem?_cons_zero, Option.some.injEq] at hline
        rw [← hline, Text.units_append] at hunit
        -- The unit is the first tile's, or one of the rest of the line behind it.
        by_cases hu : unit < Text.units first.text
        · refine ⟨first, List.mem_cons_self, rfl, Nat.le_add_right _ _, ?_⟩
          rw [if_pos rfl, hends]
          exact Nat.add_lt_add_left hu _
        · obtain ⟨p, hp, hholds⟩ := ih 0 (unit - Text.units first.text) back rfl (by omega)
          have hsame : first.range.last + (unit - Text.units first.text) =
              first.range.first + unit := by omega
          rw [if_pos rfl] at hholds ⊢
          exact ⟨p, List.mem_cons_of_mem _ hp, hsame ▸ hholds⟩
      | succ i =>
        obtain ⟨p, hp, hholds⟩ := ih (i + 1) unit line hline hunit
        exact ⟨p, List.mem_cons_of_mem _ hp, hholds⟩

end Tiles

/-- The pieces of tokens that begin at a place tile the text of the tokens from there on. -/
theorem tiles_ofTokensFrom (place : Position) (tokens : List Token) :
    Tiles place (Token.texts tokens) (ofTokensFrom place.line place.column tokens) := by
  induction tokens generalizing place with
  | nil => exact .nil place
  | cons token rest ih =>
    -- The place handed on to the next token is the one behind all the text so far.
    obtain ⟨hplace, htiles⟩ := tiles_splitAt token.kind.key? place token.text
    have hrest := ih (place.after token.text)
    rw [← hplace] at hrest
    rw [Token.texts, List.flatMap_cons]
    refine htiles.append ?_
    rw [← hplace]
    exact hrest

/-- The pieces of tokens are the parts of the tokens, in their order. -/
theorem map_share_ofTokensFrom (line column : Nat) (tokens : List Token) :
    (ofTokensFrom line column tokens).map share = tokens.flatMap Token.shares := by
  induction tokens generalizing line column with
  | nil => rfl
  | cons token rest ih =>
    rw [ofTokensFrom, List.flatMap_cons, List.map_append, map_share_ofParts, ih]
    rfl

end Piece

namespace RangeGroups

private theorem perm_insertInto (key : String) (range : LineRange)
    (groups : List (String × List LineRange)) :
    ((insertInto key range groups).flatMap Prod.snd).Perm
      (groups.flatMap Prod.snd ++ [range]) := by
  induction groups with
  | nil => exact .refl _
  | cons group rest ih =>
    obtain ⟨first, old⟩ := group
    rw [insertInto, List.flatMap_cons, List.append_assoc]
    by_cases hk : first = key
    · rw [if_pos hk, List.flatMap_cons, List.append_assoc]
      exact List.perm_append_comm.append_left old
    · rw [if_neg hk, List.flatMap_cons]
      exact ih.append_left old

/-- The groups hold the ranges they were made of. -/
theorem perm_ofList (ranges : List (String × LineRange)) :
    ((ofList ranges).groups.flatMap Prod.snd).Perm (ranges.map Prod.snd) := by
  have hfold (g : RangeGroups) :
      ((ranges.foldl (fun g r => g.insert r.1 r.2) g).groups.flatMap Prod.snd).Perm
        (g.groups.flatMap Prod.snd ++ ranges.map Prod.snd) := by
    induction ranges generalizing g with
    | nil =>
      rw [List.map_nil, List.append_nil]
      exact .refl _
    | cons r rest ih =>
      refine (ih (g.insert r.1 r.2)).trans ?_
      rw [List.map_cons, ← List.singleton_append, ← List.append_assoc]
      exact (perm_insertInto r.1 r.2 g.groups).append_right _
  exact hfold {}

/-- A piece with a key has its range in the group of the key. -/
theorem exists_group_of_mem (tokens : List Token) (p : Piece) (key : String)
    (hp : p ∈ Piece.ofTokens tokens) (hkey : p.key = some key) :
    ∃ group ∈ (ofTokens tokens).groups, p.range ∈ group.2 := by
  have hmem : p.range ∈ (ofTokens tokens).under key := by
    rw [under_ofTokens]
    exact List.mem_map_of_mem (List.mem_filter.mpr ⟨hp, decide_eq_true hkey⟩)
  exact ⟨(key, _), ((isProper_ofTokens tokens).mem_iff key _).mpr ⟨rfl, List.ne_nil_of_mem hmem⟩,
    hmem⟩

end RangeGroups

namespace TokenKind

/-- The key is the own one of a kind at or above, and no kind between has a key of its own. -/
def HasNearestKey (kind : TokenKind) (key : String) : Prop :=
  ∃ ancestor below, kind = ancestor ++ below ∧ ownKey? ancestor = some key ∧
    ∀ names, names ≠ [] → names <+: below → ownKey? (ancestor ++ names) = none

/-- Without a key of its own a kind has that of its parent. -/
theorem key?_concat (kind : TokenKind) (name : String) :
    key? (kind ++ [name]) = (ownKey? (kind ++ [name])).or (key? kind) := by
  rw [key?, List.length_append, List.length_singleton, keyWithin?, List.dropLast_concat, key?]

/-- The key of a kind is the nearest one. -/
theorem key?_eq_some_iff (kind : TokenKind) (key : String) :
    kind.key? = some key ↔ HasNearestKey kind key := by
  -- The induction takes names off the end, in the order in which the ancestors are asked.
  induction kind using List.reverseRecOn with
  | nil =>
    constructor
    · intro h
      refine ⟨[], [], rfl, h, fun names hn hp => absurd (List.prefix_nil.mp hp) hn⟩
    · rintro ⟨ancestor, below, hkind, hkey, -⟩
      obtain ⟨rfl, -⟩ := List.append_eq_nil_iff.mp hkind.symm
      exact hkey
  | append_singleton kind name ih =>
    rw [key?_concat, Option.or_eq_some_iff, ih]
    constructor
    · rintro (hown | ⟨hnone, ancestor, below, rfl, hkey, hbetween⟩)
      · exact ⟨kind ++ [name], [], (List.append_nil _).symm, hown,
          fun names hn hp => absurd (List.prefix_nil.mp hp) hn⟩
      · refine ⟨ancestor, below ++ [name], List.append_assoc .., hkey, fun names hn hp => ?_⟩
        rcases List.prefix_concat_iff.mp hp with rfl | hp
        · rwa [← List.append_assoc]
        · exact hbetween names hn hp
    · rintro ⟨ancestor, below, hkind, hkey, hbetween⟩
      rcases List.eq_nil_or_concat below with rfl | ⟨between, last, rfl⟩
      · rw [hkind, List.append_nil]
        exact .inl hkey
      · rw [List.concat_eq_append] at hkind hbetween
        have hnone := hbetween _ (List.append_ne_nil_of_right_ne_nil _ (List.cons_ne_nil _ _))
          (List.prefix_refl _)
        rw [← hkind] at hnone
        rw [← List.append_assoc] at hkind
        refine .inr ⟨hnone, ancestor, between, (List.append_inj' hkind rfl).1, hkey, ?_⟩
        exact fun names hn hp => hbetween names hn (hp.trans (List.prefix_append between [last]))

/-- A kind without a key has no kind at or above with one. -/
theorem key?_eq_none_iff (kind : TokenKind) :
    kind.key? = none ↔ ∀ ancestor, ancestor <+: kind → ownKey? ancestor = none := by
  induction kind using List.reverseRecOn with
  | nil =>
    constructor
    · intro h ancestor ha
      rwa [List.prefix_nil.mp ha]
    · exact fun h => h [] List.nil_prefix
  | append_singleton kind name ih =>
    rw [key?_concat, Option.or_eq_none_iff, ih]
    constructor
    · rintro ⟨hown, habove⟩ ancestor ha
      rcases List.prefix_concat_iff.mp ha with rfl | ha
      · exact hown
      · exact habove ancestor ha
    · exact fun h => ⟨h _ (List.prefix_refl _),
        fun ancestor ha => h ancestor (List.prefix_concat_iff.mpr (.inr ha))⟩

end TokenKind

/-- The pieces and the ranges of a stream of tokens tile the text of the tokens. -/
structure TilesText (tokens : List Token) : Prop where
  /-- The pieces are the parts of the tokens that are not empty, in the order of the stream. -/
  cut : (Piece.ofTokens tokens).map Piece.share = tokens.flatMap Token.shares
  /-- A part has the key of its token's kind, or of the nearest kind above that has one. -/
  key_iff : ∀ (kind : TokenKind) (key : String), kind.key? = some key ↔ kind.HasNearestKey key
  key_none_iff : ∀ kind : TokenKind,
    kind.key? = none ↔ ∀ ancestor, ancestor <+: kind → TokenKind.ownKey? ancestor = none
  /-- The range of a piece names its line and its ends there, behind all the earlier pieces. -/
  placed : ∀ earlier p later, Piece.ofTokens tokens = earlier ++ p :: later →
    ∃ above front back below, Text.splitAt '\n' (Token.texts tokens) =
        above ++ (front ++ p.text ++ back) :: below ∧
      p.InLine earlier above front ∧
      p.range.first < p.range.last ∧ p.range.last ≤ Text.units (front ++ p.text ++ back)
  /-- Under each key stand the ranges of its pieces in their order, and no key stands twice. -/
  grouped : ∀ key ranges, (key, ranges) ∈ (RangeGroups.ofTokens tokens).groups ↔
    ((Piece.ofTokens tokens).filter (·.key = some key)).map Piece.range = ranges ∧ ranges ≠ []
  nodup : (RangeGroups.ofTokens tokens).keys.Nodup
  /-- Over all keys, no two ranges on a line overlap. -/
  apart : ((RangeGroups.ofTokens tokens).groups.flatMap Prod.snd).Pairwise LineRange.Apart
  /-- A unit of a line is held by a piece without a key, exactly when no range holds it. -/
  uncovered : ∀ (i : Nat) (line : List Char),
    (Text.splitAt '\n' (Token.texts tokens))[i]? = some line → ∀ unit < Text.units line,
    ((¬∃ group ∈ (RangeGroups.ofTokens tokens).groups, ∃ r ∈ group.2, r.Holds i unit) ↔
      ∃ p ∈ Piece.ofTokens tokens, p.key = none ∧ p.range.Holds i unit)

namespace RangeGroups

/-- Two pieces of a stream that are not the same are apart. -/
theorem apart_of_mem (tokens : List Token) (p q : Piece) (hp : p ∈ Piece.ofTokens tokens)
    (hq : q ∈ Piece.ofTokens tokens) (hne : p ≠ q) : p.range.Apart q.range := by
  have hpairwise : (Piece.ofTokens tokens).Pairwise fun p q => p.range.Apart q.range :=
    (Piece.tiles_ofTokensFrom {} tokens).pairwise_before.imp fun h => h.apart
  have : Std.Symm fun p q : Piece => p.range.Apart q.range := ⟨fun _ _ h => h.symm⟩
  exact hpairwise.forall hp hq hne

/-- No two ranges of the groups overlap. -/
theorem pairwise_apart (tokens : List Token) :
    ((ofTokens tokens).groups.flatMap Prod.snd).Pairwise LineRange.Apart := by
  rw [ofTokens, (perm_ofList _).pairwise_iff fun h => h.symm, List.pairwise_map]
  refine (Piece.tiles_ofTokensFrom {} tokens).pairwise_before.filterMap Piece.keyed? ?_
  rintro p q hbefore r hr s hs
  obtain ⟨_, -, rfl⟩ := Option.map_eq_some_iff.mp hr
  obtain ⟨_, -, rfl⟩ := Option.map_eq_some_iff.mp hs
  exact hbefore.apart

/-- No range holds a unit exactly when a piece without a key does. -/
theorem uncovered_iff (tokens : List Token) (i unit : Nat) (line : List Char)
    (hline : (Text.splitAt '\n' (Token.texts tokens))[i]? = some line)
    (hunit : unit < Text.units line) :
    (¬∃ group ∈ (ofTokens tokens).groups, ∃ r ∈ group.2, r.Holds i unit) ↔
      ∃ p ∈ Piece.ofTokens tokens, p.key = none ∧ p.range.Holds i unit := by
  constructor
  · intro hnone
    obtain ⟨p, hp, hholds⟩ :=
      (Piece.tiles_ofTokensFrom {} tokens).exists_holds i unit line hline hunit
    rw [ite_self, Nat.zero_add, Nat.zero_add] at hholds
    refine ⟨p, hp, ?_, hholds⟩
    cases hkey : p.key with
    | none => rfl
    | some key =>
      obtain ⟨group, hg, hr⟩ := exists_group_of_mem tokens p key hp hkey
      exact absurd ⟨group, hg, p.range, hr, hholds⟩ hnone
  · rintro ⟨p, hp, hkey, hholds⟩ ⟨group, hg, r, hr, hheld⟩
    obtain ⟨q, hq, hqkey, rfl⟩ := mem_ofTokens tokens group.1 group.2 r hg hr
    have hne : p ≠ q := by
      rintro rfl
      rw [hkey] at hqkey
      cases hqkey
    exact (apart_of_mem tokens p q hp hq hne).not_holds i unit hholds hheld

/-- The ranges of every stream of tokens tile what has a key in the text of the tokens. -/
theorem ofTokens_tiles (tokens : List Token) : TilesText tokens where
  cut := Piece.map_share_ofTokensFrom 0 0 tokens
  key_iff := TokenKind.key?_eq_some_iff
  key_none_iff := TokenKind.key?_eq_none_iff
  placed := by
    intro earlier p later hp
    obtain ⟨hne, above, front, back, below, hlines, hin⟩ :=
      (Piece.tiles_ofTokensFrom {} tokens).exists_inLine earlier p later hp
    obtain ⟨hpos, hlength⟩ := hin.bounds back hne
    exact ⟨above, front, back, below, hlines, hin, hpos, hlength⟩
  grouped := by
    intro key ranges
    rw [(isProper_ofTokens tokens).mem_iff, under_ofTokens]
  nodup := (isProper_ofTokens tokens).nodup_keys
  apart := pairwise_apart tokens
  uncovered := fun i line hline unit hunit => uncovered_iff tokens i unit line hline hunit

/-- A comment over a line break, a blank behind a character of two units, a kind below a name. -/
example : (ofTokens [⟨TokenKind.comment, ['a', '\n', '😀']⟩, ⟨TokenKind.text, [' ']⟩,
    ⟨TokenKind.name.sub "Mark", ['x']⟩]).groups =
    [("c", [⟨0, 0, 1⟩, ⟨1, 0, 2⟩]), ("n", [⟨1, 3, 4⟩])] := by decide

end RangeGroups

end CodeHighlight
