import CodeHighlight.Proofs.Directives.Group

/-!
# The lookups read directives

Groups in braces, numbers behind a sign and line number flags: each lookup finds the directives of
its own form and passes all others. A hyphen inside a selector stands behind a digit and is passed.
-/

namespace CodeHighlight.Directives

open Text (Digits)
open WrittenDirective (group)

section Groups

private theorem firstGroup?_cons_of_ne (focused : Bool) (c : Char) (hc : c ≠ '{')
    (before rest : List Char) :
    firstGroup? focused before (c :: rest) = firstGroup? focused (c :: before) rest := by
  rw [firstGroup?, if_neg fun h => hc h.1]

/-- A piece without opening braces is passed. -/
theorem firstGroup?_passes (focused : Bool) (before piece rest : List Char)
    (h : '{' ∉ piece) : Passes (firstGroup? focused) before piece rest := by
  apply Passes.of_forall _ (fun c => c ≠ '{') (firstGroup?_cons_of_ne focused)
  rintro c hc rfl
  exact h hc

private theorem not_mem_brace (s : WrittenSelector) : '{' ∉ s.text ∧ '}' ∉ s.text :=
  ⟨s.not_mem_text '{' (Text.isDigit_eq_false _ (by decide)) (by decide) (by decide),
    s.not_mem_text '}' (Text.isDigit_eq_false _ (by decide)) (by decide) (by decide)⟩

private theorem groupBody?_text (s : WrittenSelector) (rest : List Char) :
    groupBody? (s.text ++ '}' :: rest) = some s.text := by
  rw [groupBody?_eq_some_iff]
  refine ⟨?_, rest, rfl⟩
  intro c hc
  constructor
  · rintro rfl
    exact (not_mem_brace s).1 hc
  · rintro rfl
    exact (not_mem_brace s).2 hc

/-- A group is found when it stands where the lookup wants it, and passed otherwise. -/
theorem firstGroup?_group (focused : Bool) (s : WrittenSelector) (before rest : List Char) :
    firstGroup? focused before (group s ++ rest) =
      if followsFocus before = focused then some s.text
      else firstGroup? focused ((group s).reverse ++ before) rest := by
  have htext : group s ++ rest = '{' :: (s.text ++ '}' :: rest) := by
    rw [group, List.cons_append, List.append_assoc]
    rfl
  by_cases h : followsFocus before = focused
  · rw [htext, firstGroup?, if_pos ⟨rfl, h⟩, if_pos h, groupBody?_text, Option.some_or]
  · have hbody : '{' ∉ s.text ++ ['}'] := by
      rw [List.mem_append, not_or]
      exact ⟨(not_mem_brace s).1, by decide⟩
    have hpass : Passes (firstGroup? focused) before (group s) rest := by
      apply Passes.cons
      · rw [firstGroup?, if_neg fun both => h both.2]
      · exact firstGroup?_passes focused _ _ _ hbody
    rw [if_neg h, hpass]

/-- The selector of the form that a lookup of groups wants. -/
def wantedGroup? (focused : Bool) (d : WrittenDirective) : Option (List Char) :=
  (if focused then d.focus? else d.highlight?).map WrittenSelector.text

private theorem wantedGroup?_eq_none (focused : Bool) (d : WrittenDirective)
    (hhighlight : d.highlight? = none) (hfocus : d.focus? = none) :
    wantedGroup? focused d = none := by
  rw [wantedGroup?, hhighlight, hfocus, ite_self]
  rfl

/-- The lookup of groups reads directives. -/
theorem reads_firstGroup? (focused : Bool) :
    Reads (firstGroup? focused) (wantedGroup? focused) := by
  constructor
  · exact fun before => rfl
  · intro s before rest _
    exact firstGroup?_passes focused before s.chars rest fun h => (s.plain _ h).1 rfl
  · intro d before rest hclear _ _
    cases d with
    | highlight s =>
      rw [WrittenDirective.text, firstGroup?_group, hclear]
      cases focused with
      | false => rfl
      | true => rfl
    | focus s =>
      have hkeyword : Passes (firstGroup? focused) before WrittenDirective.focusKeyword
          (group s ++ rest) := firstGroup?_passes focused before _ _ (by decide)
      have hfollows : followsFocus (WrittenDirective.focusKeyword.reverse ++ before) = true := rfl
      rw [WrittenDirective.text, List.append_assoc, hkeyword, firstGroup?_group, hfollows,
        List.reverse_append, List.append_assoc]
      cases focused with
      | false => rfl
      | true => rfl
    | number f =>
      apply Passes.or_eq _ _ _ _ _ _ (wantedGroup?_eq_none focused _ rfl rfl)
      exact firstGroup?_passes _ _ _ _
        (f.not_mem_text '{' (by decide) (Text.isDigit_eq_false _ (by decide)) (by decide))
    | added n | removed n =>
      apply Passes.or_eq _ _ _ _ _ _ (wantedGroup?_eq_none focused _ rfl rfl)
      apply firstGroup?_passes
      rw [WrittenDirective.text, List.mem_cons, not_or]
      exact ⟨by decide, n.not_mem_text '{' (Text.isDigit_eq_false _ (by decide)) (by decide)⟩

end Groups

section Numbers

/-- The list ends where neither a digit nor a comma with a digit behind it follows. -/
theorem numberRuns_last (d : Digits) (rest : List Char)
    (hdigit : Text.startsWith Text.isDigit rest = false)
    (hcomma : ∀ more, rest = ',' :: more → Text.startsWith Text.isDigit more = false) :
    numberRuns (d.chars ++ rest) = [d.chars] := by
  rw [numberRuns, Text.takeWhile_run _ _ _ d.isDigit_of_mem hdigit]
  congr 1
  split
  · next c more hdrop =>
    rw [Text.dropWhile_run _ _ _ d.isDigit_of_mem hdigit] at hdrop
    have hc : Text.isDigit c = false := hcomma (c :: more) hdrop
    rw [if_neg (by simp [hc])]
  · rfl

/-- Behind a comma and a digit the list goes on. -/
theorem numberRuns_comma (d : Digits) (rest : List Char)
    (h : Text.startsWith Text.isDigit rest = true) :
    numberRuns (d.chars ++ ',' :: rest) = d.chars :: numberRuns rest := by
  have hcomma : Text.startsWith Text.isDigit (',' :: rest) = false := by
    exact Text.isDigit_eq_false ',' (by decide)
  rw [numberRuns, Text.takeWhile_run _ _ _ d.isDigit_of_mem hcomma]
  congr 1
  split
  · next c more hdrop =>
    rw [Text.dropWhile_run _ _ _ d.isDigit_of_mem hcomma] at hdrop
    obtain ⟨-, rfl⟩ := List.cons.inj hdrop
    have hc : Text.isDigit c = true := h
    rw [if_pos hc]
  · next hdrop =>
    rw [Text.dropWhile_run _ _ _ d.isDigit_of_mem hcomma] at hdrop
    cases rest with
    | nil => cases h
    | cons c more => exact absurd rfl (hdrop c more)

/-- Numbers begin with a digit. -/
theorem startsWith_numbers (d : Digits) (rest : List Digits) (back : List Char) :
    Text.startsWith Text.isDigit
      (Text.joinWith [','] ((d :: rest).map Digits.chars) ++ back) = true := by
  obtain ⟨c, more, hd, hc⟩ := d.exists_cons
  cases rest with
  | nil =>
    rw [List.map_cons, List.map_nil, Text.joinWith, hd]
    exact hc
  | cons e others =>
    rw [List.map_cons, Text.joinWith_cons _ _ _ (by simp), hd]
    exact hc

/-- The list is read to its end. -/
theorem numberRuns_text (n : WrittenNumbers) (rest : List Char) (h : Calm rest) :
    numberRuns (n.text ++ rest) = n.numbers.map Digits.chars := by
  rw [WrittenNumbers.text]
  have hne := n.nonempty
  generalize n.numbers = numbers at hne
  induction numbers with
  | nil => exact absurd rfl hne
  | cons d others ih =>
    cases others with
    | nil =>
      apply numberRuns_last d rest h.no_digit
      intro behind hrest
      cases hmore : Text.startsWith Text.isDigit behind with
      | false => rfl
      | true => exact absurd rfl (h.no_number ',' behind hrest hmore).1
    | cons e more =>
      rw [List.map_cons, Text.joinWith_cons _ _ _ (by simp), List.append_assoc,
        List.append_assoc, List.singleton_append,
        numberRuns_comma d _ (startsWith_numbers e more rest), ih (List.cons_ne_nil _ _)]

/-- The sign of removed lines or of added lines. -/
def sign (removed : Bool) : Char := if removed then '-' else '+'

private theorem firstNumbers?_cons_of_ne (s : Char) (alone : Bool) (c : Char) (hc : c ≠ s)
    (before rest : List Char) :
    firstNumbers? s alone before (c :: rest) = firstNumbers? s alone (c :: before) rest := by
  rw [firstNumbers?, if_neg fun h => hc h.1]

/-- A piece without the sign is passed. -/
theorem firstNumbers?_passes (s : Char) (alone : Bool) (before piece rest : List Char)
    (h : s ∉ piece) : Passes (firstNumbers? s alone) before piece rest := by
  apply Passes.of_forall _ (fun c => c ≠ s) (firstNumbers?_cons_of_ne s alone)
  rintro c hc rfl
  exact h hc

/-- A piece without digits that no digit follows is passed, whatever signs it holds. -/
theorem firstNumbers?_passes_plain (s : Char) (alone : Bool) (before piece rest : List Char)
    (hpiece : ∀ c ∈ piece, Text.isDigit c = false)
    (hrest : Text.startsWith Text.isDigit rest = false) :
    Passes (firstNumbers? s alone) before piece rest := by
  induction piece generalizing before with
  | nil => exact Passes.nil _ before rest
  | cons c more ih =>
    have hmore := fun d hd => hpiece d (List.mem_cons_of_mem c hd)
    apply Passes.cons
    · have hnext : Text.startsWith Text.isDigit (more ++ rest) = false := by
        cases more with
        | nil => exact hrest
        | cons d _ => exact hmore d List.mem_cons_self
      rw [firstNumbers?, if_neg]
      rintro ⟨-, hdigit, -⟩
      exact Bool.noConfusion (hnext.symm.trans hdigit)
    · exact ih (c :: before) hmore

private theorem firstNumbers?_passes_item (i : WrittenItem) (before rest : List Char) :
    Passes (firstNumbers? '-' true) before i.text rest := by
  have hdigits : ∀ (d : Digits) before rest, Passes (firstNumbers? '-' true) before d.chars rest :=
    fun d before rest =>
      firstNumbers?_passes _ _ _ _ _ (d.not_mem '-' (Text.isDigit_eq_false _ (by decide)))
  have hblanks : ∀ (blanks : List Char), (∀ c ∈ blanks, Text.isBlank c = true) →
      ∀ before rest, Passes (firstNumbers? '-' true) before blanks rest := by
    intro blanks hb before rest
    apply firstNumbers?_passes
    intro h
    exact Bool.noConfusion (hb '-' h)
  have htail : ∀ rest, Passes (firstNumbers? '-' true)
      (i.first.chars.reverse ++ (i.left.reverse ++ before)) (WrittenItem.tail i.last) rest := by
    intro rest
    cases i.last with
    | none => exact Passes.nil _ _ _
    | some last =>
      -- The nearest character before the hyphen is the last digit of the first number.
      obtain ⟨c, more, hfirst, hc⟩ := i.first.exists_reverse_cons
      apply Passes.cons
      · rw [firstNumbers?, if_neg]
        rintro ⟨-, -, hbefore⟩
        apply hbefore
        rw [hfirst]
        exact ⟨rfl, hc⟩
      · exact hdigits last _ _
  rw [WrittenItem.text, WrittenItem.bare, List.append_assoc]
  apply Passes.append
  · exact hblanks i.left i.left_blank _ _
  · apply Passes.append
    · apply Passes.append
      · exact hdigits i.first _ _
      · exact htail _
    · exact hblanks i.right i.right_blank _ _

/-- No sign of a group is taken for one of its own directive. -/
theorem firstNumbers?_passes_group (removed : Bool) (s : WrittenSelector)
    (before rest : List Char) :
    Passes (firstNumbers? (sign removed) removed) before (group s) rest := by
  cases removed with
  | false =>
    apply firstNumbers?_passes
    exact WrittenDirective.not_mem_group s '+' (by decide)
      (s.not_mem_text '+' (Text.isDigit_eq_false _ (by decide)) (by decide) (by decide))
  | true =>
    -- The hyphen of a range is no mark, since a digit stands before it.
    have hitems : ∀ (items : List WrittenItem) before rest, Passes (firstNumbers? '-' true) before
        (Text.joinWith [','] (items.map WrittenItem.text)) rest := by
      intro items
      induction items with
      | nil => exact fun before rest => Passes.nil _ before rest
      | cons i others ih =>
        intro before rest
        by_cases hothers : others = []
        · rw [hothers]
          exact firstNumbers?_passes_item i before rest
        · have hne : others.map WrittenItem.text ≠ [] := fun h =>
            hothers (List.map_eq_nil_iff.mp h)
          rw [List.map_cons, Text.joinWith_cons _ _ _ hne]
          apply Passes.append
          · exact firstNumbers?_passes_item i before _
          · apply Passes.append
            · exact firstNumbers?_passes _ _ _ _ _ (by decide)
            · exact ih _ rest
    have hbrace : ∀ c before rest, c = '{' ∨ c = '}' →
        firstNumbers? '-' true before (c :: rest) = firstNumbers? '-' true (c :: before) rest := by
      intro c before rest hc
      apply firstNumbers?_cons_of_ne
      rcases hc with rfl | rfl
      · decide
      · decide
    apply Passes.cons
    · exact hbrace '{' _ _ (Or.inl rfl)
    · apply Passes.append
      · exact hitems s.items _ _
      · exact hbrace '}' _ _ (Or.inr rfl)

/-- A list of numbers is found behind its sign. -/
theorem firstNumbers?_text (s : Char) (alone : Bool) (n : WrittenNumbers) (before rest : List Char)
    (hbefore : alone = true → ∀ c ∈ before.head?, Text.isDigit c = false) (hrest : Calm rest) :
    firstNumbers? s alone before (s :: (n.text ++ rest)) = some (n.numbers.map Digits.chars) := by
  have hdigit : (n.text ++ rest).head?.any Text.isDigit = true := by
    rw [WrittenNumbers.text]
    cases hn : n.numbers with
    | nil => exact absurd hn n.nonempty
    | cons d others => exact startsWith_numbers d others rest
  have halone : ¬ (alone = true ∧ before.head?.any Text.isDigit = true) := by
    rintro ⟨ha, hany⟩
    obtain ⟨c, hc, hd⟩ := (Option.any_eq_true _ _).mp hany
    exact Bool.noConfusion ((hbefore ha c hc).symm.trans hd)
  rw [firstNumbers?, if_pos ⟨rfl, hdigit, halone⟩, numberRuns_text n rest hrest]

/-- The numbers of the form that a lookup of signs wants. -/
def wantedNumbers? (removed : Bool) (d : WrittenDirective) : Option (List (List Char)) :=
  (if removed then d.removed? else d.added?).map fun n => n.numbers.map Digits.chars

private theorem wantedNumbers?_eq_none (removed : Bool) (d : WrittenDirective)
    (hadded : d.added? = none) (hremoved : d.removed? = none) :
    wantedNumbers? removed d = none := by
  rw [wantedNumbers?, hadded, hremoved, ite_self]
  rfl

private theorem not_mem_list (s c : Char) (n : WrittenNumbers) (hs : s = '+' ∨ s = '-')
    (hc : s ≠ c) : s ∉ c :: n.text := by
  rw [List.mem_cons, not_or]
  rcases hs with rfl | rfl
  · exact ⟨hc, n.not_mem_text '+' (Text.isDigit_eq_false _ (by decide)) (by decide)⟩
  · exact ⟨hc, n.not_mem_text '-' (Text.isDigit_eq_false _ (by decide)) (by decide)⟩

/-- The lookup of a sign reads directives. -/
theorem reads_firstNumbers? (removed : Bool) :
    Reads (firstNumbers? (sign removed) removed) (wantedNumbers? removed) := by
  constructor
  · exact fun before => rfl
  · intro s before rest hopens
    exact firstNumbers?_passes_plain _ _ before s.chars rest (fun c hc => (s.plain c hc).2.2.2)
      hopens.no_digit
  · intro d before rest _ hapart hcalm
    cases d with
    | highlight s =>
      apply Passes.or_eq _ _ _ _ _ _ (wantedNumbers?_eq_none removed _ rfl rfl)
      exact firstNumbers?_passes_group removed s before rest
    | focus s =>
      apply Passes.or_eq _ _ _ _ _ _ (wantedNumbers?_eq_none removed _ rfl rfl)
      apply Passes.append
      · apply firstNumbers?_passes
        cases removed with
        | false => decide
        | true => decide
      · exact firstNumbers?_passes_group removed s _ rest
    | number f =>
      apply Passes.or_eq _ _ _ _ _ _ (wantedNumbers?_eq_none removed _ rfl rfl)
      apply firstNumbers?_passes
      cases removed with
      | false =>
        exact f.not_mem_text '+' (by decide) (Text.isDigit_eq_false _ (by decide)) (by decide)
      | true =>
        exact f.not_mem_text '-' (by decide) (Text.isDigit_eq_false _ (by decide)) (by decide)
    | added n =>
      cases removed with
      | false =>
        have hfound := firstNumbers?_text '+' false n before rest (fun h => nomatch h) hcalm
        exact hfound
      | true =>
        apply Passes.or_eq _ _ _ _ _ _ rfl
        exact firstNumbers?_passes _ _ _ _ _ (not_mem_list '-' '+' n (Or.inr rfl) (by decide))
    | removed n =>
      cases removed with
      | false =>
        apply Passes.or_eq _ _ _ _ _ _ rfl
        exact firstNumbers?_passes _ _ _ _ _ (not_mem_list '+' '-' n (Or.inl rfl) (by decide))
      | true =>
        have hfound := firstNumbers?_text '-' true n before rest (fun _ => hapart n rfl) hcalm
        exact hfound

/-- Numbers that are found name the lines of their list. -/
theorem markedLines?_of_found (s : Char) (alone : Bool) (text : List Char) (n : WrittenNumbers)
    (h : firstNumbers? s alone [] text = some (n.numbers.map Digits.chars)) :
    markedLines? s alone text = n.lines? := by
  rw [markedLines?, h]
  change ((n.numbers.map Digits.chars).mapM Text.readNumeral?).bind _ = n.lines?
  rw [Text.mapM_written _ _ _ _ Digits.readNumeral?_chars, WrittenNumbers.lines?]
  by_cases hn : n.Readable
  · rw [if_pos hn]
    unfold WrittenNumbers.Readable at hn
    rw [if_pos hn, Option.bind_some, List.map_map]
    rfl
  · rw [if_neg hn]
    unfold WrittenNumbers.Readable at hn
    rw [if_neg hn]
    rfl

end Numbers

section Flags

variable {α : Type}

/-- The first flag for which `read` finds something behind it. -/
def firstFlag? (read : List Char → Option α) : Scanner α
  | _, [] => none
  | before, c :: rest =>
    ((afterFlag? (c :: rest)).bind read).or (firstFlag? read (c :: before) rest)

/-- A flag occurs if one is found whatever is behind it. -/
theorem hasFlag_eq (before text : List Char) :
    hasFlag text = (firstFlag? (fun _ => some ()) before text).isSome := by
  induction text generalizing before with
  | nil => rfl
  | cons c rest ih =>
    rw [hasFlag, firstFlag?, ih (c :: before)]
    cases afterFlag? (c :: rest) with
    | none => rfl
    | some _ => rfl

/-- The first start is that of the first flag with digits behind a colon. -/
theorem firstStart?_eq (before text : List Char) :
    firstStart? text = firstFlag? colonDigits? before text := by
  induction text generalizing before with
  | nil => rfl
  | cons c rest ih => rw [firstStart?, firstFlag?, ih (c :: before)]

private theorem numberFlags_eq :
    numberFlags = [['s', 'h'] ++ "owLineNumbers".toList, 'l' :: "ineNumbers".toList] := rfl

private theorem afterFlag?_of_ne (c : Char) (hc : c ≠ 's' ∧ c ≠ 'l') (rest : List Char) :
    afterFlag? (c :: rest) = none := by
  simp [afterFlag?, numberFlags_eq, List.isPrefixOf, Ne.symm hc.1, Ne.symm hc.2]

private theorem afterFlag?_last (rest : List Char) (h : ∀ c ∈ rest.head?, c ≠ 'h') :
    afterFlag? ('s' :: rest) = none := by
  cases rest with
  | nil => simp [afterFlag?, numberFlags_eq, List.isPrefixOf]
  | cons c more =>
    have hc : c ≠ 'h' := h c rfl
    simp [afterFlag?, numberFlags_eq, List.isPrefixOf, Ne.symm hc]

/-- Behind the name of a flag at the front is what follows the name. -/
theorem afterFlag?_name (f : WrittenFlag) (rest : List Char) :
    afterFlag? (f.name ++ rest) = some rest := by
  have hname : numberFlags.find? (·.isPrefixOf (f.name ++ rest)) = some f.name := by
    have hself : f.name.isPrefixOf (f.name ++ rest) = true :=
      List.isPrefixOf_iff_prefix.mpr (List.prefix_append _ _)
    rw [WrittenFlag.name] at hself ⊢
    rw [numberFlags]
    by_cases hlong : f.long = true
    · rw [if_pos hlong] at hself ⊢
      exact List.find?_cons_of_pos hself
    · rw [if_neg hlong] at hself ⊢
      refine (List.find?_cons_of_neg ?_).trans (List.find?_cons_of_pos hself)
      exact Bool.false_ne_true
  rw [afterFlag?, hname, Option.map_some, List.drop_left]

private theorem firstFlag?_cons (read : List Char → Option α) (c : Char) (before rest : List Char)
    (h : afterFlag? (c :: rest) = none) :
    firstFlag? read before (c :: rest) = firstFlag? read (c :: before) rest := by
  rw [firstFlag?, h]
  rfl

/-- A piece without the letters that begin a flag is passed. -/
theorem firstFlag?_passes (read : List Char → Option α) (before piece rest : List Char)
    (h : 's' ∉ piece ∧ 'l' ∉ piece) : Passes (firstFlag? read) before piece rest := by
  apply Passes.of_forall _ (fun c => c ≠ 's' ∧ c ≠ 'l')
  · exact fun c hc before rest => firstFlag?_cons read c before rest (afterFlag?_of_ne c hc rest)
  · intro c hc
    constructor
    · rintro rfl
      exact h.1 hc
    · rintro rfl
      exact h.2 hc

/-- A word that ends in `s` is passed, when no `h` follows. -/
theorem firstFlag?_passes_word (read : List Char → Option α) (before word rest : List Char)
    (hword : 's' ∉ word ∧ 'l' ∉ word) (hrest : ∀ c ∈ rest.head?, c ≠ 'h') :
    Passes (firstFlag? read) before (word ++ ['s']) rest := by
  apply Passes.append
  · exact firstFlag?_passes read before word _ hword
  · exact firstFlag?_cons read 's' _ rest (afterFlag?_last rest hrest)

/-- A flag is found with what `read` finds in its suffix, and passed otherwise. -/
theorem firstFlag?_text (read : List Char → Option α) (f : WrittenFlag) (before rest : List Char)
    (hread : read (WrittenFlag.suffix f.start ++ rest) = read (WrittenFlag.suffix f.start))
    (hrest : ∀ c ∈ rest.head?, c ≠ 'h') :
    firstFlag? read before (f.text ++ rest) =
      (read (WrittenFlag.suffix f.start)).or (firstFlag? read (f.text.reverse ++ before) rest) := by
  have hsuffix : ∀ before, Passes (firstFlag? read) before (WrittenFlag.suffix f.start) rest := by
    intro before
    apply firstFlag?_passes
    exact ⟨WrittenFlag.not_mem_suffix f.start 's' (Text.isDigit_eq_false _ (by decide)) (by decide),
      WrittenFlag.not_mem_suffix f.start 'l' (Text.isDigit_eq_false _ (by decide)) (by decide)⟩
  have hnext : ∀ c ∈ (WrittenFlag.suffix f.start ++ rest).head?, c ≠ 'h' := by
    cases f.start with
    | none => exact hrest
    | some d =>
      rintro c ⟨⟩
      decide
  -- Behind its first letter the name holds no other flag: only its last letter could begin one.
  have hname : ∀ c word, f.name = c :: (word ++ ['s']) → 's' ∉ word ∧ 'l' ∉ word →
      firstFlag? read before (f.text ++ rest) = (read (WrittenFlag.suffix f.start)).or
        (firstFlag? read (f.text.reverse ++ before) rest) := by
    intro c word hf hword
    have hafter := afterFlag?_name f (WrittenFlag.suffix f.start ++ rest)
    have htail : Passes (firstFlag? read) (c :: before)
        ((word ++ ['s']) ++ WrittenFlag.suffix f.start) rest := by
      apply Passes.append
      · exact firstFlag?_passes_word read _ word _ hword hnext
      · exact hsuffix _
    rw [hf] at hafter
    rw [WrittenFlag.text, hf, List.cons_append, List.cons_append, firstFlag?, List.append_assoc,
      ← List.cons_append, hafter, Option.bind_some, hread, ← List.append_assoc, htail,
      List.reverse_cons, List.append_assoc, List.append_assoc]
    rfl
  rcases f.name_eq with hf | hf
  · exact hname _ _ hf (by decide)
  · exact hname _ _ hf (by decide)

/-- The lookup of flags reads directives, if what is read behind a flag ends with its suffix. -/
theorem reads_firstFlag? (read : List Char → Option α)
    (hread : ∀ start rest, Calm rest →
      read (WrittenFlag.suffix start ++ rest) = read (WrittenFlag.suffix start)) :
    Reads (firstFlag? read) fun d => d.number?.bind fun f => read (WrittenFlag.suffix f.start) := by
  have hgroup : ∀ s before rest, Passes (firstFlag? read) before (group s) rest := by
    intro s before rest
    apply firstFlag?_passes
    exact ⟨not_mem_letter 's' (Or.inl rfl) s, not_mem_letter 'l' (Or.inr rfl) s⟩
  constructor
  · exact fun before => rfl
  · intro s before rest _
    apply firstFlag?_passes
    exact ⟨fun h => s.ne_of_mem 's' 's' h rfl rfl, fun h => s.ne_of_mem 'l' 'l' h rfl rfl⟩
  · intro d before rest _ _ hcalm
    cases d with
    | highlight s =>
      apply Passes.or_eq _ _ _ _ _ _ rfl
      exact hgroup s before rest
    | focus s =>
      apply Passes.or_eq _ _ _ _ _ _ rfl
      apply Passes.append
      · apply firstFlag?_passes_word read before "focu".toList _ (by decide)
        rintro c ⟨⟩
        decide
      · exact hgroup s _ rest
    | number f =>
      exact firstFlag?_text read f before rest (hread f.start rest hcalm) hcalm.no_letter
    | added n | removed n =>
      apply Passes.or_eq _ _ _ _ _ _ rfl
      apply firstFlag?_passes
      rw [WrittenDirective.text, List.mem_cons, List.mem_cons, not_or, not_or]
      exact ⟨⟨by decide, n.not_mem_text 's' (Text.isDigit_eq_false _ (by decide)) (by decide)⟩,
        ⟨by decide, n.not_mem_text 'l' (Text.isDigit_eq_false _ (by decide)) (by decide)⟩⟩

end Flags

end CodeHighlight.Directives
