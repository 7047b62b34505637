import CodeHighlight.Text.Blank
import CodeHighlight.Text.LineBreak

/-!
# Lines

How a text falls into lines, read character by character, and what is left of it when its lines are
joined by line feeds: every line break became a line feed, and the one at the end is gone.
-/

namespace CodeHighlight.Text

/-- The front ends with a line break that the back does not continue. -/
def EndsLine (front back : List Char) : Prop :=
  ∃ c, front.getLast? = some c ∧ isBreak c = true ∧ ¬(c = '\r' ∧ back.head? = some '\n')

/-- A character, or a line feed for a line break. -/
def feed (c : Char) : Char := if isBreak c then '\n' else c

/-- Puts a character before the first line. -/
def putFirst (c : Char) : List (List Char) → List (List Char)
  | [] => [[c]]
  | line :: more => (c :: line) :: more

/-! ## The lines of a text, by its first character -/

private theorem lines_eq (text : List Char) (h : text ≠ []) :
    lines text = (takeLine text).1 :: lines (takeLine text).2 := by
  rw [lines, dif_neg h]

theorem lines_nil : lines [] = [] := by
  rw [lines, dif_pos rfl]

/-- A text has a line if and only if it has a character. -/
theorem lines_eq_nil_iff (text : List Char) : lines text = [] ↔ text = [] := by
  constructor
  · intro h
    by_cases hne : text = []
    · exact hne
    · rw [lines_eq text hne] at h
      exact absurd h (List.cons_ne_nil _ _)
  · rintro rfl
    exact lines_nil

/-- The pair of carriage return and line feed ends one line. -/
theorem lines_pair (rest : List Char) : lines ('\r' :: '\n' :: rest) = [] :: lines rest := by
  have htake : takeLine ('\r' :: '\n' :: rest) = ([], rest) := by
    simp [takeLine, isBreak]
  rw [lines_eq _ (List.cons_ne_nil _ _), htake]

/-- A break outside the pair ends a line. -/
theorem lines_break (c : Char) (rest : List Char) (hc : isBreak c = true)
    (hpair : ¬(c = '\r' ∧ rest.head? = some '\n')) : lines (c :: rest) = [] :: lines rest := by
  have htake : takeLine (c :: rest) = ([], rest) := by
    unfold takeLine
    rw [if_pos hc]
    split
    · exact absurd ⟨rfl, rfl⟩ hpair
    · rfl
  rw [lines_eq _ (List.cons_ne_nil _ _), htake]

/-- Any other character belongs to the first line. -/
theorem lines_cons (c : Char) (rest : List Char) (hc : isBreak c = false) :
    lines (c :: rest) = putFirst c (lines rest) := by
  have htake : takeLine (c :: rest) = (c :: (takeLine rest).1, (takeLine rest).2) := by
    conv => lhs; unfold takeLine
    rw [if_neg (by rw [hc]; decide)]
  rw [lines_eq _ (List.cons_ne_nil _ _), htake]
  by_cases hrest : rest = []
  · rw [hrest, lines_nil]
    exact congrArg ([c] :: ·) lines_nil
  · rw [lines_eq rest hrest]
    rfl

/-- Whatever is not the pair of carriage return and line feed. -/
theorem pair_free (c : Char) (rest : List Char)
    (h : ∀ more, c = '\r' → rest = '\n' :: more → False) :
    ¬(c = '\r' ∧ rest.head? = some '\n') := by
  rintro ⟨hc, hrest⟩
  obtain ⟨more, hmore⟩ := List.head?_eq_some_iff.mp hrest
  exact h more hc hmore

/-! ## Cutting a text between two lines -/

private theorem head?_append_of_ne_nil (front back : List Char) (h : front ≠ []) :
    (front ++ back).head? = front.head? := by
  obtain ⟨c, rest, rfl⟩ := List.exists_cons_of_ne_nil h
  rfl

theorem EndsLine.ne_nil (front back : List Char) (h : EndsLine front back) : front ≠ [] := by
  rintro rfl
  obtain ⟨c, hlast, -⟩ := h
  cases hlast

/-- More characters before a line change nothing about its end. -/
theorem EndsLine.cons (c : Char) (front back : List Char) (h : EndsLine front back) :
    EndsLine (c :: front) back := by
  have hne := h.ne_nil
  obtain ⟨d, hlast, hd⟩ := h
  refine ⟨d, ?_, hd⟩
  rw [List.getLast?_cons, hlast]
  rfl

theorem EndsLine.append (more front back : List Char) (h : EndsLine front back) :
    EndsLine (more ++ front) back := by
  induction more with
  | nil => exact h
  | cons c more ih => exact ih.cons c

private theorem endsLine_of_cons (c : Char) (front back : List Char) (hfront : front ≠ [])
    (h : EndsLine (c :: front) back) : EndsLine front back := by
  obtain ⟨d, hlast, hd⟩ := h
  refine ⟨d, ?_, hd⟩
  rwa [List.getLast?_cons_of_ne_nil hfront] at hlast

/-- Where a line ends, the lines of a text are those before the end and those behind it. -/
theorem lines_append (front back : List Char) (h : EndsLine front back) :
    lines (front ++ back) = lines front ++ lines back := by
  induction front using unifyBreaks.induct with
  | case1 => exact absurd rfl h.ne_nil
  | case2 rest ih =>
    simp only [List.cons_append]
    rw [lines_pair, lines_pair, List.cons_append]
    by_cases hrest : rest = []
    · rw [hrest, lines_nil, List.nil_append, List.nil_append]
    · rw [ih (endsLine_of_cons _ _ _ hrest (endsLine_of_cons _ _ _ (List.cons_ne_nil _ _) h))]
  | case3 c rest hpair ih =>
    have hpair := pair_free c rest hpair
    rw [List.cons_append]
    cases hc : isBreak c with
    | true =>
      rw [lines_break c rest hc hpair]
      by_cases hrest : rest = []
      · obtain ⟨d, hlast, -, hd⟩ := h
        rw [hrest, List.getLast?_singleton, Option.some.injEq] at hlast
        rw [hrest, List.nil_append, lines_nil, lines_break c back hc (by rwa [hlast])]
        rfl
      · have hhead : (rest ++ back).head? = rest.head? := head?_append_of_ne_nil rest back hrest
        rw [lines_break c (rest ++ back) hc (by rwa [hhead]),
          ih (endsLine_of_cons c rest back hrest h)]
        rfl
    | false =>
      have hrest : rest ≠ [] := by
        rintro rfl
        obtain ⟨d, hlast, hd, -⟩ := h
        rw [List.getLast?_singleton, Option.some.injEq] at hlast
        rw [hlast, hd] at hc
        cases hc
      rw [lines_cons c rest hc, lines_cons c _ hc, ih (endsLine_of_cons c rest back hrest h)]
      cases hlines : lines rest with
      | nil => exact absurd ((lines_eq_nil_iff rest).mp hlines) hrest
      | cons line more => rfl

/-- A text falls in two where a line ends, into a part with the lines `front` and a part with the
lines `back`. -/
def FallsInto (text : List Char) (front back : List (List Char)) : Prop :=
  ∃ head rest, head ++ rest = text ∧ lines head = front ∧ lines rest = back ∧
    (rest = [] ∨ EndsLine head rest)

private theorem fallsInto_behind_break (mark rest : List Char) (front back : List (List Char))
    (hmark : lines mark = [[]]) (hends : EndsLine mark rest) (hfront : front ≠ [])
    (ih : ∀ front, front ≠ [] → lines rest = front ++ back → FallsInto rest front back)
    (h : lines (mark ++ rest) = front ++ back) : FallsInto (mark ++ rest) front back := by
  obtain ⟨line, front, rfl⟩ := List.exists_cons_of_ne_nil hfront
  rw [lines_append mark rest hends, hmark, List.singleton_append, List.cons_append,
    List.cons.injEq] at h
  obtain ⟨rfl, h⟩ := h
  by_cases hmore : front = []
  · subst hmore
    exact ⟨mark, rest, rfl, hmark, h, Or.inr hends⟩
  · obtain ⟨head, back', rfl, hhead, hback, hcut⟩ := ih front hmore h
    have hne : head ≠ [] := fun e => hmore (by rw [← hhead, e, lines_nil])
    have hbegins : EndsLine mark head := by
      rwa [EndsLine, head?_append_of_ne_nil head back' hne] at hends
    refine ⟨mark ++ head, back', List.append_assoc _ _ _, ?_, hback,
      hcut.imp_right (EndsLine.append mark head back')⟩
    rw [lines_append mark head hbegins, hmark, hhead, List.singleton_append]

/-- A text can be cut between any two of its lines. -/
theorem exists_append_of_lines (text : List Char) (front back : List (List Char))
    (hfront : front ≠ []) (h : lines text = front ++ back) : FallsInto text front back := by
  induction text using unifyBreaks.induct generalizing front with
  | case1 =>
    rw [lines_nil] at h
    exact absurd (List.append_eq_nil_iff.mp h.symm).1 hfront
  | case2 rest ih =>
    have hmark : lines ['\r', '\n'] = [[]] := by rw [lines_pair, lines_nil]
    have hends : EndsLine ['\r', '\n'] rest := ⟨'\n', rfl, by decide, fun e => by cases e.1⟩
    exact fallsInto_behind_break _ rest front back hmark hends hfront ih h
  | case3 c rest hpair ih =>
    have hpair := pair_free c rest hpair
    cases hc : isBreak c with
    | true =>
      have hmark : lines [c] = [[]] := by rw [lines_break c [] hc (by simp), lines_nil]
      exact fallsInto_behind_break [c] rest front back hmark ⟨c, rfl, hc, hpair⟩ hfront ih h
    | false =>
      -- The character belongs to the first line, so the cut lies where it lies in the rest.
      obtain ⟨line, front, rfl⟩ := List.exists_cons_of_ne_nil hfront
      rw [lines_cons c rest hc] at h
      cases hlines : lines rest with
      | nil =>
        rw [hlines] at h
        obtain ⟨rfl, hnil⟩ := List.cons.inj h
        obtain ⟨rfl, rfl⟩ := List.append_eq_nil_iff.mp hnil.symm
        rw [(lines_eq_nil_iff rest).mp hlines]
        refine ⟨[c], [], rfl, ?_, lines_nil, Or.inl rfl⟩
        rw [lines_cons c [] hc, lines_nil]
        rfl
      | cons first more =>
        rw [hlines] at h
        obtain ⟨rfl, rfl⟩ := List.cons.inj h
        obtain ⟨head, back', happend, hhead, hback, hends⟩ :=
          ih (first :: front) (List.cons_ne_nil _ _) hlines
        refine ⟨c :: head, back', by rw [← happend]; rfl, ?_, hback,
          hends.imp_right fun hends => hends.cons c⟩
        rw [lines_cons c head hc, hhead]
        rfl

/-! ## Joining the lines of a text -/

private theorem joinWith_putFirst (sep : List Char) (c : Char) (pieces : List (List Char)) :
    joinWith sep (putFirst c pieces) = c :: joinWith sep pieces := by
  cases pieces with
  | nil => rfl
  | cons piece rest => cases rest <;> rfl

private theorem joinWith_nil_lines (sep : List Char) (pieces : List (List Char))
    (h : pieces ≠ []) : joinWith sep ([] :: pieces) = sep ++ joinWith sep pieces := by
  obtain ⟨piece, rest, rfl⟩ := List.exists_cons_of_ne_nil h
  rfl

/-- Lines joined by line feeds, with one behind them if the text ends with a line break: every
break became a line feed, and nothing else changed. -/
theorem joinWith_lines (text : List Char) :
    joinWith ['\n'] (lines text) ++ (if text.getLast?.any isBreak then ['\n'] else []) =
      (unifyBreaks text).map feed := by
  induction text using unifyBreaks.induct with
  | case1 => rw [lines_nil]; rfl
  | case2 rest ih =>
    rw [lines_pair, unifyBreaks, List.map_cons, ← ih]
    by_cases hrest : rest = []
    · rw [hrest, lines_nil]
      rfl
    · rw [joinWith_nil_lines _ _ (mt (lines_eq_nil_iff rest).mp hrest),
        List.getLast?_cons_of_ne_nil (List.cons_ne_nil _ _), List.getLast?_cons_of_ne_nil hrest]
      rfl
  | case3 c rest hpair ih =>
    have hunified : unifyBreaks (c :: rest) = (if c = '\r' then '\n' else c) :: unifyBreaks rest :=
      unifyBreaks.eq_3 c rest hpair
    have hpair := pair_free c rest hpair
    rw [hunified, List.map_cons, ← ih]
    cases hc : isBreak c with
    | true =>
      have hfeed : feed (if c = '\r' then '\n' else c) = '\n' := by
        split
        · rfl
        · rw [feed, if_pos hc]
      rw [lines_break c rest hc hpair, hfeed]
      by_cases hrest : rest = []
      · rw [hrest, lines_nil, List.getLast?_singleton, Option.any_some, hc]
        rfl
      · rw [joinWith_nil_lines _ _ (mt (lines_eq_nil_iff rest).mp hrest),
          List.getLast?_cons_of_ne_nil hrest]
        rfl
    | false =>
      have hne : c ≠ '\r' := by
        rintro rfl
        exact absurd hc (by decide)
      have hfeed : feed (if c = '\r' then '\n' else c) = c := by
        rw [if_neg hne, feed, if_neg (by rw [hc]; decide)]
      rw [lines_cons c rest hc, joinWith_putFirst, hfeed]
      by_cases hrest : rest = []
      · rw [hrest, lines_nil, List.getLast?_singleton, Option.any_some, hc]
        rfl
      · rw [List.getLast?_cons_of_ne_nil hrest]
        rfl

/-! ## Which breaks are more than line ends of a source file -/

private theorem mem_unifyBreaks_iff (text : List Char) (c : Char) (hfeed : c ≠ '\n')
    (hreturn : c ≠ '\r') : c ∈ unifyBreaks text ↔ c ∈ text := by
  induction text using unifyBreaks.induct with
  | case1 => rfl
  | case2 rest ih => simp [unifyBreaks, ih, hfeed, hreturn]
  | case3 d rest hpair ih =>
    rw [unifyBreaks.eq_3 d rest hpair, List.mem_cons, List.mem_cons, ih]
    split
    · next hd => rw [hd]; simp [hfeed, hreturn]
    · rfl

/-- Writing every break as a line feed changes a unified text only where it holds another break. -/
theorem map_feed_unifyBreaks_iff (text : List Char) :
    (unifyBreaks text).map feed = unifyBreaks text ↔
      ∀ c ∈ text, isBreak c = true → c = '\n' ∨ c = '\r' := by
  have hiff : (unifyBreaks text).map feed = unifyBreaks text ↔
      ∀ c ∈ unifyBreaks text, feed c = c := by
    conv => lhs; rhs; rw [← List.map_id (unifyBreaks text)]
    exact List.map_inj_left
  rw [hiff]
  constructor
  · intro h c hmem hc
    by_cases hreturn : c = '\r'
    · exact Or.inr hreturn
    by_cases hfeed : c = '\n'
    · exact Or.inl hfeed
    have hsame := h c ((mem_unifyBreaks_iff text c hfeed hreturn).mpr hmem)
    rw [feed, if_pos hc] at hsame
    exact absurd hsame.symm hfeed
  · intro h c hmem
    rw [feed]
    split
    · next hc =>
      have hreturn : c ≠ '\r' := fun e => not_mem_unifyBreaks text (e ▸ hmem)
      by_cases hfeed : c = '\n'
      · exact hfeed.symm
      · have hmem := (mem_unifyBreaks_iff text c hfeed hreturn).mp hmem
        exact absurd (h c hmem hc) (not_or.mpr ⟨hfeed, hreturn⟩)
    · rfl

end CodeHighlight.Text
