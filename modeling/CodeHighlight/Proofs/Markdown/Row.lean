import CodeHighlight.Markdown.Row

/-!
# Balanced rows of tokens

A token that opens goes one step deeper and one that closes a step back. A part of a row ends with
the first token behind which nothing is open: it is one token that does not open, or a token that
opens with the token that closes it and a balanced row between the two. The kinds of the tokens make
no difference.
-/

namespace CodeHighlight.Markdown.Token

/-- How much deeper the row is behind some tokens. -/
def depth : List Token → Int
  | [] => 0
  | token :: row => token.nesting.step + depth row

@[simp] theorem depth_nil : depth [] = 0 := rfl

@[simp] theorem depth_cons (token : Token) (row : List Token) :
    depth (token :: row) = token.nesting.step + depth row := rfl

@[simp] theorem depth_append (front back : List Token) :
    depth (front ++ back) = depth front + depth back := by
  induction front with
  | nil => rw [List.nil_append, depth_nil, Int.zero_add]
  | cons token front ih => rw [List.cons_append, depth_cons, depth_cons, ih, Int.add_assoc]

/-- Only a token that opens goes deeper. -/
theorem step_pos_iff (token : Token) : 0 < token.nesting.step ↔ token.nesting = .opens := by
  cases token.nesting <;> simp [Nesting.step]

/-- With `opened` tokens open before it, a row never closes more than is open. -/
def StaysWithin (opened : Int) (row : List Token) : Prop :=
  ∀ front, front <+: row → 0 ≤ opened + depth front

/-- Everything that is opened is closed, and nothing else. -/
structure Balanced (row : List Token) : Prop where
  depth_eq : depth row = 0
  staysWithin : StaysWithin 0 row

/-- A part of a row: nothing is open behind it, and something is behind every shorter beginning. -/
structure IsPart (part : List Token) : Prop where
  ne_nil : part ≠ []
  depth_le : depth part ≤ 0
  depth_pos : ∀ front, front <+: part → front ≠ [] → front ≠ part → 0 < depth front

/-! ## Rows that stay within -/

/-- Without tokens what is open stays open. -/
theorem staysWithin_nil (opened : Int) : StaysWithin opened [] ↔ 0 ≤ opened := by
  constructor
  · intro h
    simpa using h [] List.nil_prefix
  · intro h front hfront
    rw [List.prefix_nil.mp hfront]
    simpa using h

/-- A row stays within if its first token and the others do. -/
theorem staysWithin_cons (opened : Int) (token : Token) (row : List Token) :
    StaysWithin opened (token :: row) ↔
      0 ≤ opened ∧ StaysWithin (opened + token.nesting.step) row := by
  constructor
  · intro h
    refine ⟨by simpa using h [] List.nil_prefix, ?_⟩
    intro front hfront
    have hcons := h (token :: front) (List.cons_prefix_cons.mpr ⟨rfl, hfront⟩)
    rw [depth_cons] at hcons
    omega
  · rintro ⟨hopen, h⟩ front hfront
    cases front with
    | nil => simpa using hopen
    | cons first front =>
      obtain ⟨rfl, hmore⟩ := List.cons_prefix_cons.mp hfront
      have hfront := h front hmore
      rw [depth_cons]
      omega

/-- Two rows stay within, the second from where the first left off. -/
theorem staysWithin_append (opened : Int) (front back : List Token) :
    StaysWithin opened (front ++ back) ↔
      StaysWithin opened front ∧ StaysWithin (opened + depth front) back := by
  induction front generalizing opened with
  | nil =>
    rw [List.nil_append, depth_nil, Int.add_zero, staysWithin_nil]
    refine ⟨fun h => ⟨?_, h⟩, And.right⟩
    simpa using h [] List.nil_prefix
  | cons token front ih =>
    rw [List.cons_append, staysWithin_cons, ih, staysWithin_cons, depth_cons, Int.add_assoc,
      and_assoc]

/-! ## Parts -/

/-- A part of a row that is `opened` deep before. -/
structure Ends (opened : Int) (part : List Token) : Prop where
  ne_nil : part ≠ []
  depth_le : opened + depth part ≤ 0
  depth_pos : ∀ front, front <+: part → front ≠ [] → front ≠ part → 0 < opened + depth front

/-- A row is as deep as its parts go. -/
theorem isPart_iff (part : List Token) : IsPart part ↔ Ends 0 part := by
  constructor
  · rintro ⟨hne, hle, hpos⟩
    exact ⟨hne, by simpa using hle, by simpa using hpos⟩
  · rintro ⟨hne, hle, hpos⟩
    exact ⟨hne, by simpa using hle, by simpa using hpos⟩

/-- A part ends with its first token, or the others end where that leaves off. -/
theorem ends_cons (opened : Int) (token : Token) (part : List Token) :
    Ends opened (token :: part) ↔
      opened + token.nesting.step ≤ 0 ∧ part = [] ∨
        0 < opened + token.nesting.step ∧ Ends (opened + token.nesting.step) part := by
  constructor
  · rintro ⟨-, hle, hpos⟩
    rw [depth_cons] at hle
    by_cases hpart : part = []
    · subst hpart
      exact .inl ⟨by simpa using hle, rfl⟩
    · have hfirst := hpos [token] (by simp) (by simp) (by simpa using Ne.symm hpart)
      rw [depth_cons, depth_nil, Int.add_zero] at hfirst
      refine .inr ⟨hfirst, hpart, by omega, ?_⟩
      intro front hfront hne hproper
      have hmore := hpos (token :: front) (List.cons_prefix_cons.mpr ⟨rfl, hfront⟩) (by simp)
        (by simpa using hproper)
      rw [depth_cons] at hmore
      omega
  · rintro (⟨hle, rfl⟩ | ⟨hpos, hne, hle, hmore⟩)
    · refine ⟨by simp, by simpa using hle, ?_⟩
      intro front hfront hne hproper
      rcases List.prefix_cons_iff.mp hfront with rfl | ⟨rest, rfl, hrest⟩
      · exact (hne rfl).elim
      · rw [List.prefix_nil.mp hrest] at hproper
        exact (hproper rfl).elim
    · refine ⟨by simp, by rw [depth_cons]; omega, ?_⟩
      intro front hfront hfilled hproper
      rcases List.prefix_cons_iff.mp hfront with rfl | ⟨rest, rfl, hrest⟩
      · exact (hfilled rfl).elim
      · rw [depth_cons]
        by_cases hrestne : rest = []
        · rw [hrestne, depth_nil]
          omega
        · have hrestpos := hmore rest hrest hrestne fun h => hproper (congrArg (token :: ·) h)
          omega

/-- The first part of a row is found. -/
theorem part?_eq_some_iff (opened : Int) (row part after : List Token) :
    part? opened row = some (part, after) ↔ row = part ++ after ∧ Ends opened part := by
  induction row generalizing opened part after with
  | nil =>
    rw [part?]
    refine ⟨nofun, ?_⟩
    rintro ⟨hnil, hpart⟩
    exact (hpart.ne_nil (List.append_eq_nil_iff.mp hnil.symm).1).elim
  | cons token rest ih =>
    rw [part?]
    split
    · next hle =>
      constructor
      · rintro h
        cases h
        exact ⟨rfl, (ends_cons _ _ _).mpr (.inl ⟨hle, rfl⟩)⟩
      · rintro ⟨hrow, hpart⟩
        obtain ⟨first, more, rfl⟩ := List.exists_cons_of_ne_nil hpart.ne_nil
        rw [List.cons_append, List.cons.injEq] at hrow
        obtain ⟨rfl, rfl⟩ := hrow
        rcases (ends_cons _ _ _).mp hpart with ⟨-, rfl⟩ | ⟨hpos, -⟩
        · rfl
        · omega
    · next hpos =>
      simp only [Option.map_eq_some_iff, Prod.exists, Prod.mk.injEq]
      constructor
      · rintro ⟨more, after, hmore, rfl, rfl⟩
        obtain ⟨rfl, hpart⟩ := (ih _ _ _).mp hmore
        exact ⟨rfl, (ends_cons _ _ _).mpr (.inr ⟨by omega, hpart⟩)⟩
      · rintro ⟨hrow, hpart⟩
        obtain ⟨first, more, rfl⟩ := List.exists_cons_of_ne_nil hpart.ne_nil
        rw [List.cons_append, List.cons.injEq] at hrow
        obtain ⟨rfl, rfl⟩ := hrow
        rcases (ends_cons _ _ _).mp hpart with ⟨hle, -⟩ | ⟨-, hpart⟩
        · omega
        · exact ⟨more, after, (ih _ _ _).mpr ⟨rfl, hpart⟩, rfl, rfl⟩

/-- A row without a part stays open, and is found to do so. -/
theorem part?_eq_none_iff (opened : Int) (row : List Token) :
    part? opened row = none ↔
      ∀ front, front <+: row → front ≠ [] → 0 < opened + depth front := by
  induction row generalizing opened with
  | nil =>
    rw [part?]
    exact ⟨fun _ front hfront hne => (hne (List.prefix_nil.mp hfront)).elim, fun _ => rfl⟩
  | cons token rest ih =>
    rw [part?]
    split
    · next hle =>
      refine ⟨nofun, fun h => ?_⟩
      have hfirst := h [token] (by simp) (by simp)
      rw [depth_cons, depth_nil, Int.add_zero] at hfirst
      omega
    · next hpos =>
      rw [Option.map_eq_none_iff, ih]
      constructor
      · intro h front hfront hne
        rcases List.prefix_cons_iff.mp hfront with rfl | ⟨more, rfl, hmore⟩
        · exact (hne rfl).elim
        · rw [depth_cons]
          by_cases hmorene : more = []
          · rw [hmorene, depth_nil]
            omega
          · have hmorepos := h more hmore hmorene
            omega
      · intro h front hfront _
        have hcons := h (token :: front) (List.cons_prefix_cons.mpr ⟨rfl, hfront⟩) (by simp)
        rw [depth_cons] at hcons
        omega

/-- A token that opens nothing is a part. -/
theorem isPart_single (token : Token) (h : token.nesting ≠ .opens) : IsPart [token] := by
  rw [isPart_iff, ends_cons]
  have hstep := mt (step_pos_iff token).mp h
  exact .inl ⟨by omega, rfl⟩

/-- A token that opens with a balanced row and the token that closes it is a part. -/
theorem isPart_enclosure (first last : Token) (inner : List Token) (hfirst : first.nesting = .opens)
    (hlast : last.nesting = .closes) (h : Balanced inner) :
    IsPart (first :: (inner ++ [last])) where
  ne_nil := List.cons_ne_nil _ _
  depth_le := by simp [h.depth_eq, hfirst, hlast, Nesting.step]
  depth_pos := by
    intro front hfront hne hself
    rcases List.prefix_cons_iff.mp hfront with rfl | ⟨rest, rfl, hrest⟩
    · exact (hne rfl).elim
    · have hrest : rest <+: inner := by
        rcases List.prefix_concat_iff.mp hrest with rfl | hrest
        · exact (hself rfl).elim
        · exact hrest
      have hopen := h.staysWithin rest hrest
      rw [depth_cons, hfirst, Nesting.step]
      omega

/-- There are no other parts. -/
theorem IsPart.cases (part : List Token) (h : IsPart part) :
    (∃ token, part = [token] ∧ token.nesting ≠ .opens) ∨
      ∃ first last inner, part = first :: (inner ++ [last]) ∧ first.nesting = .opens ∧
        last.nesting = .closes ∧ Balanced inner := by
  obtain ⟨first, rest, rfl⟩ := List.exists_cons_of_ne_nil h.ne_nil
  rcases List.eq_nil_or_concat rest with rfl | ⟨inner, last, rfl⟩
  · refine .inl ⟨first, rfl, fun hopens => ?_⟩
    have hle := h.depth_le
    rw [depth_cons, depth_nil, Int.add_zero] at hle
    exact absurd ((step_pos_iff first).mpr hopens) (by omega)
  · rw [List.concat_eq_append] at h ⊢
    have hpos (front : List Token) (hfront : front <+: inner) :
        0 < first.nesting.step + depth front :=
      h.depth_pos (first :: front)
        (List.cons_prefix_cons.mpr ⟨rfl, hfront.trans (List.prefix_append _ _)⟩)
        (List.cons_ne_nil _ _) fun heq => by
          have hlength := hfront.length_le
          rw [(List.cons.inj heq).2, List.length_append, List.length_singleton] at hlength
          omega
    have hfirst : first.nesting = .opens :=
      (step_pos_iff first).mp (by simpa using hpos [] List.nil_prefix)
    have hle := h.depth_le
    have hinner := hpos inner (List.prefix_refl inner)
    rw [depth_cons, depth_append, depth_cons, depth_nil] at hle
    rw [hfirst, Nesting.step] at hle hinner
    have hlast : last.nesting = .closes := by
      cases hlast : last.nesting with
      | closes => rfl
      | opens | stands =>
        rw [hlast, Nesting.step] at hle
        omega
    rw [hlast, Nesting.step] at hle
    refine .inr ⟨first, last, inner, rfl, hfirst, hlast, by omega, fun front hfront => ?_⟩
    have hfront := hpos front hfront
    rw [hfirst, Nesting.step] at hfront
    omega

/-! ## Balanced rows -/

/-- Behind a token that opens nothing, a balanced row is balanced. -/
theorem Balanced.of_cons (token : Token) (row : List Token) (h : Balanced (token :: row))
    (htoken : token.nesting ≠ .opens) : Balanced row := by
  obtain ⟨-, hwithin⟩ := (staysWithin_cons _ _ _).mp h.staysWithin
  have hzero := hwithin [] List.nil_prefix
  have hdepth := h.depth_eq
  have hstep := mt (step_pos_iff token).mp htoken
  rw [depth_nil] at hzero
  rw [depth_cons] at hdepth
  have hflat : token.nesting.step = 0 := by omega
  rw [hflat, Int.zero_add] at hdepth
  rw [hflat] at hwithin
  exact ⟨hdepth, hwithin⟩

/-- Behind a balanced enclosure, a balanced row is balanced. -/
theorem Balanced.of_enclosure (first last : Token) (inner row : List Token)
    (hfirst : first.nesting = .opens) (hlast : last.nesting = .closes) (hinner : Balanced inner)
    (h : Balanced (first :: (inner ++ last :: row))) : Balanced row := by
  obtain ⟨-, hwithin⟩ := (staysWithin_cons _ _ _).mp h.staysWithin
  obtain ⟨-, hwithin⟩ := (staysWithin_append _ _ _).mp hwithin
  obtain ⟨-, hwithin⟩ := (staysWithin_cons _ _ _).mp hwithin
  have hdepth := h.depth_eq
  rw [depth_cons, depth_append, depth_cons, hinner.depth_eq, hfirst, hlast, Nesting.step,
    Nesting.step] at hdepth
  rw [hinner.depth_eq, hfirst, hlast, Nesting.step, Nesting.step] at hwithin
  exact ⟨by omega, hwithin⟩

/-- A row that a first token leaves open is not balanced. -/
theorem not_balanced_of_opens (token : Token) (row : List Token) (htoken : token.nesting = .opens)
    (h : StaysWithin 0 row) : ¬Balanced (token :: row) := by
  intro hrow
  have hdepth := hrow.depth_eq
  have hrest := h row (List.prefix_refl row)
  rw [depth_cons, htoken, Nesting.step] at hdepth
  omega

/-- Rows are read from front to end: a token that opens nothing, a token that opens with the one
that closes it, or one that nothing closes comes first. -/
@[elab_as_elim]
theorem row_induction {motive : List Token → Prop} (nil : motive [])
    (single : ∀ token rest, token.nesting ≠ .opens → motive rest → motive (token :: rest))
    (enclosure : ∀ first last inner after, first.nesting = .opens → last.nesting = .closes →
      Balanced inner → motive inner → motive after → motive (first :: (inner ++ last :: after)))
    (unclosed : ∀ token rest, token.nesting = .opens → StaysWithin 0 rest →
      motive (token :: rest))
    (row : List Token) : motive row := by
  match row with
  | [] => exact nil
  | token :: rest =>
    cases hpart : part? 0 (token :: rest) with
    | none =>
      have hopen := (part?_eq_none_iff 0 _).mp hpart
      have hfirst := hopen [token] (by simp) (by simp)
      rw [depth_cons, depth_nil, Int.add_zero, Int.zero_add, step_pos_iff] at hfirst
      refine unclosed token rest hfirst fun front hfront => ?_
      have hmore := hopen (token :: front) (List.cons_prefix_cons.mpr ⟨rfl, hfront⟩) (by simp)
      rw [depth_cons, hfirst, Nesting.step] at hmore
      omega
    | some found =>
      obtain ⟨part, after⟩ := found
      obtain ⟨hrow, hends⟩ := (part?_eq_some_iff 0 _ part after).mp hpart
      rcases IsPart.cases part ((isPart_iff part).mpr hends) with
        ⟨only, rfl, honly⟩ | ⟨first, last, inner, rfl, hfirst, hlast, hinner⟩
      · rw [List.singleton_append, List.cons.injEq] at hrow
        obtain ⟨rfl, rfl⟩ := hrow
        exact single token rest honly (row_induction nil single enclosure unclosed rest)
      · rw [List.cons_append, List.append_assoc, List.singleton_append, List.cons.injEq] at hrow
        obtain ⟨rfl, rfl⟩ := hrow
        exact enclosure token last inner after hfirst hlast hinner
          (row_induction nil single enclosure unclosed inner)
          (row_induction nil single enclosure unclosed after)
termination_by row.length

end CodeHighlight.Markdown.Token
