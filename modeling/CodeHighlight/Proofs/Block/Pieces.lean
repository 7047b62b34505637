import CodeHighlight.Block.Range
import CodeHighlight.Proofs.Text.Position

/-!
# Pieces and their places

Every piece is a part of one token's text, and its range begins at the place behind all the text
before it. Grouping by key keeps every range under its own key.
-/

namespace CodeHighlight

open Text (Position)

/-- The text that tokens make up. -/
def Token.texts (tokens : List Token) : List Char := tokens.flatMap Token.text

namespace Piece

/-- The piece stands in a text behind `before`, for a part of the text that begins at a place. -/
structure StandsAt (p : Piece) (place : Position) (before : List Char) : Prop where
  nonempty : p.text ≠ []
  inLine : '\n' ∉ p.text
  begins : place.after before = ⟨p.range.line, p.range.first⟩
  ends : p.range.last = p.range.first + Text.units p.text

/-- What stands behind a text, seen from the place behind it, stands there as a whole. -/
theorem StandsAt.append (p : Piece) (place : Position) (front before : List Char)
    (h : p.StandsAt (place.after front) before) : p.StandsAt place (front ++ before) := by
  refine ⟨h.nonempty, h.inLine, ?_, h.ends⟩
  rw [Position.after_append, h.begins]

/-- Pieces tile a text from a place on: each stands where the one before it ends, and nothing but
line feeds stands between them. -/
inductive Tiles : Position → List Char → List Piece → Prop where
  | nil (place : Position) : Tiles place [] []
  | feed (place : Position) (text : List Char) (pieces : List Piece)
      (h : Tiles ⟨place.line + 1, 0⟩ text pieces) : Tiles place ('\n' :: text) pieces
  | piece (place : Position) (p : Piece) (text : List Char) (pieces : List Piece)
      (hp : p.StandsAt place []) (h : Tiles (place.after p.text) text pieces) :
      Tiles place (p.text ++ text) (p :: pieces)

/-- Tiles of a text and tiles of what follows it are tiles of the whole. -/
theorem Tiles.append {place : Position} {front back : List Char} {earlier later : List Piece}
    (hfront : Tiles place front earlier) (hback : Tiles (place.after front) back later) :
    Tiles place (front ++ back) (earlier ++ later) := by
  induction hfront with
  | nil place => exact hback
  | feed place text pieces h ih => exact .feed place _ _ (ih hback)
  | piece place p text pieces hp h ih =>
    rw [List.append_assoc, List.cons_append]
    rw [Position.after_append] at hback
    exact .piece place p _ _ hp (ih hback)

/-- A tile stands in the text, and before it stand the texts of the earlier tiles and line feeds. -/
theorem Tiles.exists_standsAt {place : Position} {text : List Char} {pieces : List Piece}
    (h : Tiles place text pieces) (earlier : List Piece) (p : Piece) (later : List Piece)
    (hp : pieces = earlier ++ p :: later) :
    ∃ before after, text = before ++ p.text ++ after ∧ p.StandsAt place before ∧
      before.filter (· ≠ '\n') = earlier.flatMap Piece.text := by
  induction h generalizing earlier with
  | nil place => simp at hp
  | feed place text pieces h ih =>
    obtain ⟨before, after, htext, hstands, hbefore⟩ := ih earlier hp
    exact ⟨'\n' :: before, after, by rw [htext]; rfl,
      StandsAt.append p place ['\n'] before hstands, hbefore⟩
  | piece place first text pieces hfirst h ih =>
    cases earlier with
    | nil =>
      obtain ⟨rfl, -⟩ := List.cons.inj hp
      exact ⟨[], text, rfl, hfirst, rfl⟩
    | cons q earlier =>
      obtain ⟨rfl, hpieces⟩ := List.cons.inj hp
      obtain ⟨before, after, htext, hstands, hbefore⟩ := ih earlier hpieces
      refine ⟨first.text ++ before, after, ?_, hstands.append, ?_⟩
      · rw [htext, List.append_assoc, List.append_assoc, List.append_assoc]
      · have hline : first.text.filter (· ≠ '\n') = first.text :=
          List.filter_eq_self.mpr fun c hc => by
            simpa using fun e : c = '\n' => hfirst.inLine (e ▸ hc)
        rw [List.filter_append, hline, hbefore, List.flatMap_cons]

/-- A part of a line is one more tile before the others, unless it is empty. -/
theorem tiles_part (key : Option String) (place : Position) (part text : List Char)
    (pieces : List Piece) (hl : '\n' ∉ part) (h : Tiles (place.after part) text pieces) :
    Tiles place (part ++ text) (if part.isEmpty then pieces
      else ⟨key, part, ⟨place.line, place.column, place.column + Text.units part⟩⟩ :: pieces) := by
  by_cases he : part = []
  · rw [he] at h ⊢
    exact h
  · rw [if_neg (by simpa using he)]
    exact .piece place ⟨key, part, ⟨place.line, place.column, place.column + Text.units part⟩⟩
      text pieces ⟨he, hl, rfl, rfl⟩ h

/-- The parts of a text tile it, and the place behind the last is the place behind the text. -/
private theorem ofParts_spec (key : Option String) (place : Position) (parts : List (List Char))
    (hn : parts ≠ []) (hl : ∀ part ∈ parts, '\n' ∉ part) :
    let result := ofParts key place.line place.column parts
    (⟨result.2.1, result.2.2⟩ : Position) = place.after (Text.joinWith ['\n'] parts) ∧
      Tiles place (Text.joinWith ['\n'] parts) result.1 := by
  induction parts generalizing place with
  | nil => exact absurd rfl hn
  | cons part rest ih =>
    have hpart := hl part List.mem_cons_self
    have hplace := Position.after_of_not_mem place part hpart
    cases rest with
    | nil =>
      have htile := tiles_part key place part [] [] hpart (.nil _)
      rw [List.append_nil] at htile
      rw [Text.joinWith, hplace]
      exact ⟨rfl, htile⟩
    | cons next more =>
      obtain ⟨hbehind, htiles⟩ := ih ⟨place.line + 1, 0⟩ (List.cons_ne_nil _ _)
        fun q hq => hl q (List.mem_cons_of_mem _ hq)
      rw [Text.joinWith_cons _ _ _ (List.cons_ne_nil _ _), Position.after_append, hplace, ofParts]
      · refine ⟨hbehind, tiles_part key place part _ _ hpart ?_⟩
        rw [hplace]
        exact .feed _ _ _ htiles
      · exact List.cons_ne_nil _ _

/-- The key and the text of a piece, wherever it stands. -/
def share (p : Piece) : Option String × List Char := (p.key, p.text)

/-- The parts that are not empty make one piece each, in their order. -/
theorem map_share_ofParts (key : Option String) (line column : Nat) (parts : List (List Char)) :
    (ofParts key line column parts).1.map share =
      (parts.filter fun part => !part.isEmpty).map fun part => (key, part) := by
  induction parts generalizing line column with
  | nil => rfl
  | cons part rest ih =>
    have hfirst (pieces : List Piece) (range : LineRange)
        (h : pieces.map share =
          (rest.filter fun part => !part.isEmpty).map fun part => (key, part)) :
        (if part.isEmpty then pieces else ⟨key, part, range⟩ :: pieces).map share =
          ((part :: rest).filter fun part => !part.isEmpty).map fun part => (key, part) := by
      cases part with
      | nil => exact h
      | cons c part => exact congrArg ((key, c :: part) :: ·) h
    cases rest with
    | nil => exact hfirst [] _ rfl
    | cons next more =>
      rw [ofParts]
      · exact hfirst _ _ (ih (line + 1) 0)
      · exact List.cons_ne_nil _ _

/-- The pieces of a token's text tile it, and the place behind them is that behind the text. -/
theorem tiles_splitAt (key : Option String) (place : Position) (text : List Char) :
    let result := ofParts key place.line place.column (Text.splitAt '\n' text)
    (⟨result.2.1, result.2.2⟩ : Position) = place.after text ∧ Tiles place text result.1 := by
  have hspec := ofParts_spec key place (Text.splitAt '\n' text) (Text.splitAt_ne_nil '\n' text)
    (Text.not_mem_of_mem_splitAt '\n' text)
  rwa [Text.joinWith_splitAt] at hspec

/-- The pieces of a token's text, and the place behind it. -/
theorem ofParts_splitAt (key : Option String) (place : Position) (text : List Char) :
    let result := ofParts key place.line place.column (Text.splitAt '\n' text)
    (⟨result.2.1, result.2.2⟩ : Position) = place.after text ∧
      ∀ p ∈ result.1, p.key = key ∧ ∃ before after,
        text = before ++ p.text ++ after ∧ p.StandsAt place before := by
  obtain ⟨hplace, htiles⟩ := tiles_splitAt key place text
  refine ⟨hplace, fun p hp => ⟨?_, ?_⟩⟩
  · have hshare := List.mem_map_of_mem (f := share) hp
    rw [map_share_ofParts] at hshare
    obtain ⟨part, -, he⟩ := List.mem_map.mp hshare
    exact (congrArg Prod.fst he).symm
  · obtain ⟨earlier, later, hsplit⟩ := List.append_of_mem hp
    obtain ⟨before, after, htext, hstands, -⟩ := htiles.exists_standsAt earlier p later hsplit
    exact ⟨before, after, htext, hstands⟩

/-- The token that a piece was cut from, with all that stands before it. -/
theorem ofTokensFrom_spec (place : Position) (tokens : List Token) (p : Piece)
    (hp : p ∈ ofTokensFrom place.line place.column tokens) :
    ∃ earlier token later before after, tokens = earlier ++ token :: later ∧
      token.kind.key? = p.key ∧ token.text = before ++ p.text ++ after ∧
      p.StandsAt place (Token.texts earlier ++ before) := by
  induction tokens generalizing place with
  | nil => cases hp
  | cons token rest ih =>
    obtain ⟨hplace, hpieces⟩ := ofParts_splitAt token.kind.key? place token.text
    rw [ofTokensFrom] at hp
    dsimp only at hp
    rcases List.mem_append.mp hp with hp | hp
    · obtain ⟨hkey, before, after, htext, hstands⟩ := hpieces p hp
      exact ⟨[], token, rest, before, after, rfl, hkey.symm, htext, hstands⟩
    · have hline := congrArg Position.line hplace
      have hcolumn := congrArg Position.column hplace
      dsimp only at hline hcolumn
      rw [hline, hcolumn] at hp
      obtain ⟨earlier, token', later, before, after, hrest, hkey, htext, hstands⟩ := ih _ hp
      refine ⟨token :: earlier, token', later, before, after, ?_, hkey, htext, ?_⟩
      · rw [hrest]
        rfl
      · rw [Token.texts, List.flatMap_cons, List.append_assoc]
        exact hstands.append

/-- The pieces of a block's tokens stand in the text of the tokens. -/
theorem ofTokens_spec (tokens : List Token) (p : Piece) (hp : p ∈ ofTokens tokens) :
    ∃ earlier token later before after, tokens = earlier ++ token :: later ∧
      token.kind.key? = p.key ∧ token.text = before ++ p.text ++ after ∧
      p.StandsAt {} (Token.texts earlier ++ before) :=
  ofTokensFrom_spec {} tokens p hp

end Piece

namespace RangeGroups

/-- No key has two groups, and no group is empty. -/
structure IsProper (g : RangeGroups) : Prop where
  nodup_keys : g.keys.Nodup
  ne_nil_of_mem : ∀ group ∈ g.groups, group.2 ≠ []

private theorem keys_insertInto (key : String) (range : LineRange)
    (groups : List (String × List LineRange)) :
    (insertInto key range groups).map Prod.fst =
      if key ∈ groups.map Prod.fst then groups.map Prod.fst
      else groups.map Prod.fst ++ [key] := by
  induction groups with
  | nil => rfl
  | cons group rest ih =>
    obtain ⟨first, old⟩ := group
    rw [insertInto]
    by_cases hk : first = key
    · have hmem : key ∈ ((first, old) :: rest).map Prod.fst := by simp [hk]
      rw [if_pos hk, if_pos hmem]
      rfl
    · have hmem : key ∈ ((first, old) :: rest).map Prod.fst ↔ key ∈ rest.map Prod.fst := by
        simp [Ne.symm hk]
      rw [if_neg hk, List.map_cons, ih]
      by_cases hrest : key ∈ rest.map Prod.fst
      · rw [if_pos hrest, if_pos (hmem.mpr hrest)]
        rfl
      · rw [if_neg hrest, if_neg fun h => hrest (hmem.mp h)]
        rfl

private theorem ne_nil_of_mem_insertInto (key : String) (range : LineRange)
    (groups : List (String × List LineRange)) (h : ∀ group ∈ groups, group.2 ≠ [])
    (group : String × List LineRange) (hg : group ∈ insertInto key range groups) :
    group.2 ≠ [] := by
  induction groups with
  | nil =>
    rw [insertInto, List.mem_singleton] at hg
    rw [hg]
    exact List.cons_ne_nil _ _
  | cons first rest ih =>
    obtain ⟨k, old⟩ := first
    have hrest : ∀ g ∈ rest, g.2 ≠ [] := fun g hm => h g (List.mem_cons_of_mem _ hm)
    rw [insertInto] at hg
    by_cases hk : k = key
    · rw [if_pos hk, List.mem_cons] at hg
      rcases hg with rfl | hg
      · simp
      · exact hrest group hg
    · rw [if_neg hk, List.mem_cons] at hg
      rcases hg with rfl | hg
      · exact h _ List.mem_cons_self
      · exact ih hrest hg

/-- A range more leaves the groups proper. -/
theorem IsProper.insert {g : RangeGroups} (h : g.IsProper) (key : String) (range : LineRange) :
    (g.insert key range).IsProper := by
  refine ⟨?_, ne_nil_of_mem_insertInto key range g.groups h.ne_nil_of_mem⟩
  have hkeys := keys_insertInto key range g.groups
  rw [keys, RangeGroups.insert, hkeys]
  by_cases hmem : key ∈ g.groups.map Prod.fst
  · rw [if_pos hmem]
    exact h.nodup_keys
  · rw [if_neg hmem]
    apply List.nodup_append.mpr
    refine ⟨h.nodup_keys, by simp, ?_⟩
    rintro k hk _ hkey rfl
    rw [List.mem_singleton.mp hkey] at hk
    exact hmem hk

/-- The groups of tokens are proper. -/
theorem isProper_ofTokens (tokens : List Token) : (ofTokens tokens).IsProper := by
  have hfold (ranges : List (String × LineRange)) (g : RangeGroups) (hg : g.IsProper) :
      (ranges.foldl (fun g r => g.insert r.1 r.2) g).IsProper := by
    induction ranges generalizing g with
    | nil => exact hg
    | cons r rest ih => exact ih _ (hg.insert r.1 r.2)
  exact hfold _ {} ⟨List.nodup_nil, fun _ h => nomatch h⟩

/-- The ranges under a key. -/
def under (g : RangeGroups) (key : String) : List LineRange := (g.groups.lookup key).getD []

private theorem getD_lookup_insertInto (key : String) (range : LineRange)
    (groups : List (String × List LineRange)) (k : String) :
    ((insertInto key range groups).lookup k).getD [] =
      (groups.lookup k).getD [] ++ if key = k then [range] else [] := by
  induction groups with
  | nil =>
    rw [insertInto, List.lookup_cons, List.lookup_nil, Option.getD_none, List.nil_append]
    by_cases hk : key = k
    · simp [hk]
    · rw [beq_eq_false_iff_ne.mpr (Ne.symm hk), if_neg hk]
      rfl
  | cons group rest ih =>
    obtain ⟨first, old⟩ := group
    rw [insertInto, List.lookup_cons]
    by_cases hfirst : first = key
    · rw [if_pos hfirst, List.lookup_cons]
      by_cases hk : k = first
      · simp [hk, hfirst]
      · have hne : key ≠ k := fun e => hk (e.symm.trans hfirst.symm)
        rw [beq_eq_false_iff_ne.mpr hk, if_neg hne, List.append_nil]
    · rw [if_neg hfirst, List.lookup_cons]
      by_cases hk : k = first
      · have hne : key ≠ k := fun e => hfirst (hk.symm.trans e.symm)
        rw [beq_iff_eq.mpr hk, if_neg hne, List.append_nil]
      · rw [beq_eq_false_iff_ne.mpr hk]
        exact ih

private theorem under_insert (g : RangeGroups) (key : String) (range : LineRange) (k : String) :
    (g.insert key range).under k = g.under k ++ if key = k then [range] else [] :=
  getD_lookup_insertInto key range g.groups k

/-- Under a key the ranges that came with it stand in their order. -/
theorem under_ofList (ranges : List (String × LineRange)) (key : String) :
    (ofList ranges).under key = (ranges.filter (·.1 = key)).map Prod.snd := by
  have hfold (g : RangeGroups) : (ranges.foldl (fun g r => g.insert r.1 r.2) g).under key =
      g.under key ++ (ranges.filter (·.1 = key)).map Prod.snd := by
    induction ranges generalizing g with
    | nil => exact (List.append_nil _).symm
    | cons r rest ih =>
      rw [List.foldl_cons, ih, under_insert, List.append_assoc]
      by_cases hk : r.1 = key
      · rw [if_pos hk, List.filter_cons_of_pos (by simpa using hk)]
        rfl
      · rw [if_neg hk, List.filter_cons_of_neg (by simpa using hk)]
        rfl
  exact hfold {}

/-- The groups are the keys with ranges under them. -/
theorem IsProper.mem_iff {g : RangeGroups} (h : g.IsProper) (key : String)
    (ranges : List LineRange) : (key, ranges) ∈ g.groups ↔ g.under key = ranges ∧ ranges ≠ [] := by
  constructor
  · intro hg
    refine ⟨?_, h.ne_nil_of_mem _ hg⟩
    obtain ⟨earlier, later, hsplit⟩ := List.append_of_mem hg
    have hkeys := h.nodup_keys
    rw [keys, hsplit, List.map_append, List.map_cons, List.nodup_append] at hkeys
    have hlookup : g.groups.lookup key = some ranges := by
      refine List.lookup_eq_some_iff.mpr ⟨earlier, later, hsplit, fun group hm => ?_⟩
      exact bne_iff_ne.mpr
        (hkeys.2.2 group.1 (List.mem_map_of_mem hm) key List.mem_cons_self).symm
    rw [under, hlookup, Option.getD_some]
  · rintro ⟨hunder, hne⟩
    rw [under] at hunder
    cases hlookup : g.groups.lookup key with
    | none =>
      rw [hlookup] at hunder
      exact absurd hunder.symm hne
    | some found =>
      rw [hlookup, Option.getD_some] at hunder
      obtain ⟨earlier, later, hsplit, -⟩ := List.lookup_eq_some_iff.mp hlookup
      rw [hsplit, hunder]
      exact List.mem_append_right _ List.mem_cons_self

/-- The ranges of the pieces with a key stand under it, in the order of the pieces. -/
theorem under_ofTokens (tokens : List Token) (key : String) :
    (ofTokens tokens).under key =
      ((Piece.ofTokens tokens).filter (·.key = some key)).map Piece.range := by
  rw [ofTokens, under_ofList]
  induction Piece.ofTokens tokens with
  | nil => rfl
  | cons p pieces ih =>
    obtain ⟨pkey, text, range⟩ := p
    cases pkey with
    | none => exact ih
    | some k =>
      by_cases hk : k = key
      · simpa [Piece.keyed?, hk] using ih
      · simpa [Piece.keyed?, hk] using ih

/-- A range in a group comes from a piece with the key of the group. -/
theorem mem_ofTokens (tokens : List Token) (key : String) (ranges : List LineRange) (r : LineRange)
    (hg : (key, ranges) ∈ (ofTokens tokens).groups) (hr : r ∈ ranges) :
    ∃ p ∈ Piece.ofTokens tokens, p.key = some key ∧ p.range = r := by
  rw [(isProper_ofTokens tokens).mem_iff, under_ofTokens] at hg
  rw [← hg.1] at hr
  obtain ⟨p, hp, hrange⟩ := List.mem_map.mp hr
  obtain ⟨hp, hkey⟩ := List.mem_filter.mp hp
  exact ⟨p, hp, of_decide_eq_true hkey, hrange⟩

/-- The key of a group is the key of some token's kind. -/
theorem exists_key_of_mem_ofTokens (tokens : List Token) (group : String × List LineRange)
    (hg : group ∈ (ofTokens tokens).groups) : ∃ token ∈ tokens, token.kind.key? = some group.1 := by
  obtain ⟨key, ranges⟩ := group
  cases hranges : ranges with
  | nil => exact absurd hranges ((isProper_ofTokens tokens).ne_nil_of_mem _ hg)
  | cons r rest =>
    have hr : r ∈ ranges := by
      rw [hranges]
      exact List.mem_cons_self
    obtain ⟨p, hp, hkey, -⟩ := mem_ofTokens tokens key ranges r hg hr
    obtain ⟨earlier, token, later, _, _, htokens, htoken, -, -⟩ := Piece.ofTokens_spec tokens p hp
    refine ⟨token, ?_, htoken.trans hkey⟩
    rw [htokens]
    exact List.mem_append_right _ List.mem_cons_self

end RangeGroups

end CodeHighlight
