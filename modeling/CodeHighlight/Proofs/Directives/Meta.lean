import CodeHighlight.Proofs.Directives.Lookup

/-!
# Written directives are read

A choice of directives written in any order, with any separators before, between and behind them, is
read as what it denotes. Nothing is asked but that no sign of removed lines stands directly behind a
digit, where it would belong to a range.
-/

namespace CodeHighlight

variable {α β : Type}

private theorem findSome?_of_perm (hit : α → Option β) (l l' : List α) (h : l.Perm l')
    (found : Option β) (hl : l'.filterMap hit = found.toList) : l.findSome? hit = found := by
  have hperm := h.filterMap hit
  rw [hl] at hperm
  rw [← List.head?_filterMap]
  cases found with
  | none => rw [List.perm_nil.mp hperm, List.head?_nil]
  | some b => rw [List.perm_singleton.mp hperm, List.head?_cons]

private theorem filterMap_map_toList (o : Option β) (form : β → WrittenDirective)
    (hit : WrittenDirective → Option α) :
    (o.map form).toList.filterMap hit = (o.bind fun b => hit (form b)).toList := by
  cases o with
  | none => rfl
  | some b =>
    change [form b].filterMap hit = (hit (form b)).toList
    cases h : hit (form b) with
    | none => rw [List.filterMap_cons_none h, List.filterMap_nil, Option.toList_none]
    | some _ => rw [List.filterMap_cons_some h, List.filterMap_nil, Option.toList_some]

/-- The hits among the directives of a choice. -/
theorem WrittenChoice.filterMap_directives (w : WrittenChoice)
    (hit : WrittenDirective → Option α) :
    w.directives.filterMap hit = (w.highlight.bind fun s => hit (.highlight s)).toList ++
      (w.focus.bind fun s => hit (.focus s)).toList ++
      (w.number.bind fun f => hit (.number f)).toList ++
      (w.added.bind fun n => hit (.added n)).toList ++
      (w.removed.bind fun n => hit (.removed n)).toList := by
  rw [directives, List.filterMap_append, List.filterMap_append, List.filterMap_append,
    List.filterMap_append, filterMap_map_toList, filterMap_map_toList, filterMap_map_toList,
    filterMap_map_toList, filterMap_map_toList]

/-- A scanner that reads directives finds the only hit of a choice, however it is written. -/
theorem Reads.choice (scan : Scanner α) (hit : WrittenDirective → Option α) (h : Reads scan hit)
    (w : WrittenChoice) (lead : Separator) (parts : WrittenParts)
    (hperm : parts.directives.Perm w.directives) (hapart : parts.SignsApart lead)
    (found : Option α) (hfound : w.directives.filterMap hit = found.toList) :
    scan [] (lead.chars ++ parts.text) = found := by
  -- The separator in front is passed like any other, and no keyword ends behind it.
  have hlead := h.separator lead [] _ parts.opens
  have hparts : scan (lead.chars.reverse ++ []) parts.text = parts.directives.findSome? hit := by
    apply h.text
    · exact lead.followsFocus_chars [] rfl
    · intro front n s back hsplit c hc
      apply hapart front n s back hsplit c
      rwa [List.append_nil, ← List.reverse_append, List.head?_reverse] at hc
  rw [hlead, hparts]
  exact findSome?_of_perm hit _ _ hperm found hfound

namespace Directives

private theorem colonDigits?_calm (rest : List Char) (h : Calm rest) :
    colonDigits? rest = none := by
  cases rest with
  | nil => rfl
  | cons c more =>
    by_cases hc : c = ':'
    · have hmore : Text.startsWith Text.isDigit more = false := by
        cases hdigit : Text.startsWith Text.isDigit more with
        | false => rfl
        | true => exact absurd hc (h.no_number c more rfl hdigit).2
      have hrun : more.takeWhile Text.isDigit = [] :=
        Text.takeWhile_run Text.isDigit [] more (fun d hd => nomatch hd) hmore
      rw [hc, colonDigits?, hrun]
      rfl
    · rw [colonDigits?]
      intro _ hcons
      exact hc (List.cons.inj hcons).1

private theorem colonDigits?_suffix (start : Option Text.Digits) (rest : List Char)
    (h : Calm rest) :
    colonDigits? (WrittenFlag.suffix start ++ rest) = start.map Text.Digits.chars := by
  cases start with
  | none => exact colonDigits?_calm rest h
  | some d =>
    have hne : d.chars.isEmpty = false := List.isEmpty_eq_false_iff.mpr d.nonempty
    change colonDigits? (':' :: (d.chars ++ rest)) = some d.chars
    rw [colonDigits?, Text.takeWhile_run _ _ _ d.isDigit_of_mem h.no_digit, hne]
    rfl

section Fields

variable (w : WrittenChoice) (lead : Separator) (parts : WrittenParts)
  (hperm : parts.directives.Perm w.directives) (hapart : parts.SignsApart lead)

include hperm hapart

private theorem firstGroup?_choice (focused : Bool) :
    firstGroup? focused [] (lead.chars ++ parts.text) =
      (if focused then w.focus else w.highlight).map WrittenSelector.text := by
  apply (reads_firstGroup? focused).choice _ _ w lead parts hperm hapart
  rw [WrittenChoice.filterMap_directives]
  cases focused with
  | false => cases w.highlight <;> simp [wantedGroup?, WrittenDirective.highlight?]
  | true => cases w.focus <;> simp [wantedGroup?, WrittenDirective.focus?]

/-- The highlighted lines of the choice are read. -/
theorem highlighted?_choice :
    highlighted? (lead.chars ++ parts.text) = w.denotes.highlighted := by
  rw [highlighted?, firstGroup?_choice w lead parts hperm hapart false]
  cases hw : w.highlight with
  | none => simp [WrittenChoice.denotes, hw]
  | some s =>
    by_cases hs : s.Readable
    · simp [WrittenChoice.denotes, hw, s.ofSelector?_text, s.joinWith_trim_text, hs]
    · simp [WrittenChoice.denotes, hw, s.ofSelector?_text, hs]

/-- The focused lines of the choice are read. -/
theorem focus?_choice : focus? (lead.chars ++ parts.text) = w.denotes.focus := by
  rw [focus?, firstGroup?_choice w lead parts hperm hapart true]
  cases hw : w.focus with
  | none => simp [WrittenChoice.denotes, hw]
  | some s => simp [WrittenChoice.denotes, hw, s.ofSelector?_text]

private theorem firstFlag?_choice (read : List Char → Option α)
    (hread : ∀ start rest, Calm rest →
      read (WrittenFlag.suffix start ++ rest) = read (WrittenFlag.suffix start)) :
    firstFlag? read [] (lead.chars ++ parts.text) =
      w.number.bind fun f => read (WrittenFlag.suffix f.start) := by
  apply (reads_firstFlag? read hread).choice _ _ w lead parts hperm hapart
  rw [WrittenChoice.filterMap_directives]
  simp [WrittenDirective.number?]

/-- The line numbers of the choice are read. -/
theorem numbering?_choice : numbering? (lead.chars ++ parts.text) = w.denotes.numbering := by
  have hflag : hasFlag (lead.chars ++ parts.text) = w.number.isSome := by
    rw [hasFlag_eq [], firstFlag?_choice w lead parts hperm hapart _ fun _ _ _ => rfl]
    cases w.number with
    | none => rfl
    | some _ => rfl
  have hnil : Calm [] := Opens.calm [] (fun c hc => nomatch hc)
  have hsuffix : ∀ start,
      colonDigits? (WrittenFlag.suffix start) = start.map Text.Digits.chars := by
    intro start
    have hend := colonDigits?_suffix start [] hnil
    rwa [List.append_nil] at hend
  have hstart : firstStart? (lead.chars ++ parts.text) =
      w.number.bind fun f => f.start.map Text.Digits.chars := by
    rw [firstStart?_eq [], firstFlag?_choice w lead parts hperm hapart]
    · simp only [hsuffix]
    · intro start rest hcalm
      rw [colonDigits?_suffix start rest hcalm, hsuffix]
  rw [numbering?, hflag, hstart, WrittenChoice.denotes]
  cases w.number with
  | none => rfl
  | some f =>
    change some _ = some f.first
    rw [WrittenFlag.first, Option.bind_some]
    cases f.start with
    | none => rfl
    | some d =>
      rw [Option.map_some, Option.bind_some, d.readNumeral?_chars]
      dsimp only
      -- A number with too many digits counts as none on both sides.
      by_cases hd : d.Readable
      · rw [if_pos hd, if_pos hd]
        rfl
      · rw [if_neg hd, if_neg hd]
        rfl

/-- The added or the removed lines of the choice are read. -/
theorem markedLines?_choice (removed : Bool) :
    markedLines? (sign removed) removed (lead.chars ++ parts.text) =
      (if removed then w.removed else w.added).bind WrittenNumbers.lines? := by
  have hfound : firstNumbers? (sign removed) removed [] (lead.chars ++ parts.text) =
      (if removed then w.removed else w.added).map fun n => n.numbers.map Text.Digits.chars := by
    apply (reads_firstNumbers? removed).choice _ _ w lead parts hperm hapart
    rw [WrittenChoice.filterMap_directives]
    cases removed with
    | false => cases w.added <;> simp [wantedNumbers?, WrittenDirective.added?]
    | true => cases w.removed <;> simp [wantedNumbers?, WrittenDirective.removed?]
  cases hw : (if removed then w.removed else w.added) with
  | none =>
    rw [markedLines?, hfound, hw]
    rfl
  | some n =>
    rw [hw] at hfound
    exact markedLines?_of_found _ _ _ n hfound

/-- The marked lines of the choice are read. -/
theorem diff?_choice : diff? (lead.chars ++ parts.text) = w.denotes.diff := by
  have hadded := markedLines?_choice w lead parts hperm hapart false
  have hremoved := markedLines?_choice w lead parts hperm hapart true
  rw [sign, if_neg Bool.false_ne_true, if_neg Bool.false_ne_true] at hadded
  rw [sign, if_pos rfl, if_pos rfl] at hremoved
  rw [diff?, hadded, hremoved, WrittenChoice.denotes]
  dsimp only
  cases w.added.bind WrittenNumbers.lines? with
  | none =>
    cases w.removed.bind WrittenNumbers.lines? with
    | none => rfl
    | some _ => rfl
  | some _ => rfl

end Fields

/-- Written directives are read as what they denote, in every order and with all separators. -/
theorem ofMeta_text (w : WrittenChoice) (lead : Separator) (parts : WrittenParts)
    (hperm : parts.directives.Perm w.directives) (hapart : parts.SignsApart lead) :
    ofMeta (some (String.ofList (lead.chars ++ parts.text))) = w.denotes := by
  change ofChars (String.ofList (lead.chars ++ parts.text)).toList = _
  rw [String.toList_ofList, ofChars, highlighted?_choice w lead parts hperm hapart,
    numbering?_choice w lead parts hperm hapart, diff?_choice w lead parts hperm hapart,
    focus?_choice w lead parts hperm hapart]

private def digitsOf (text : String)
    (h : text.toList ≠ [] ∧ text.toList.all Text.isDigit = true) : Text.Digits :=
  ⟨text.toList, h.1, List.all_eq_true.mp h.2⟩

private def noSeparator : Separator := ⟨[], fun _ hc => nomatch hc⟩

private def blankSeparator : Separator :=
  ⟨[' '], List.forall_mem_singleton.mpr (by decide +kernel)⟩

private def rangeSelector : WrittenSelector :=
  ⟨[⟨[' '], digitsOf "3" (by decide +kernel), some (digitsOf "5" (by decide +kernel)), [],
    List.forall_mem_singleton.mpr (by decide), List.forall_mem_nil _⟩], List.cons_ne_nil _ _⟩

private def lineSelector : WrittenSelector :=
  ⟨[⟨[], digitsOf "2" (by decide +kernel), none, [], List.forall_mem_nil _,
    List.forall_mem_nil _⟩], List.cons_ne_nil _ _⟩

private def fromTen : WrittenFlag := ⟨true, some (digitsOf "10" (by decide +kernel))⟩

private def oneNumber : WrittenNumbers :=
  ⟨[digitsOf "1" (by decide +kernel)], List.cons_ne_nil _ _⟩

private def twoNumbers : WrittenNumbers :=
  ⟨[digitsOf "4" (by decide +kernel), digitsOf "6" (by decide +kernel)], List.cons_ne_nil _ _⟩

private def fiveForms : WrittenChoice :=
  ⟨some rangeSelector, some lineSelector, some fromTen, some oneNumber, some twoNumbers⟩

private def fiveParts : WrittenParts :=
  [(.focus lineSelector, noSeparator), (.number fromTen, noSeparator),
    (.added oneNumber, blankSeparator), (.removed twoNumbers, noSeparator),
    (.highlight rangeSelector, noSeparator)]

private theorem fiveParts_apart : fiveParts.SignsApart noSeparator := by
  intro front n s back hsplit c hc
  rcases front with _ | ⟨_, _ | ⟨_, _ | ⟨_, _ | ⟨_, _ | ⟨_, more⟩⟩⟩⟩⟩
  · cases hsplit
  · cases hsplit
  · cases hsplit
  · cases hsplit
    cases hc
    decide +kernel
  · cases hsplit
  · cases more with
    | nil => cases hsplit
    | cons _ _ => cases hsplit

/-- All five forms in one text, with one blank before the sign of removed lines. -/
theorem ofMeta_fiveForms :
    ofMeta (some "focus{2}showLineNumbers:10+1 -4,6{ 3-5}") =
      { highlighted := some "3-5"
        numbering := some 10
        diff := some ⟨some (LineSet.ofLines [1]), some (LineSet.ofLines [4, 6])⟩
        focus := some (LineSet.ofPairs [(2, 2)]) } := by
  have hswap : (fiveParts.directives.take 4 ++ fiveParts.directives.drop 4).Perm
      (fiveParts.directives.drop 4 ++ fiveParts.directives.take 4) := List.perm_append_comm
  have hperm : fiveParts.directives.Perm fiveForms.directives := hswap
  have htext : String.ofList (noSeparator.chars ++ fiveParts.text) =
      "focus{2}showLineNumbers:10+1 -4,6{ 3-5}" := by
    decide +kernel
  rw [← htext, ofMeta_text fiveForms noSeparator fiveParts hperm fiveParts_apart]
  rfl

end Directives

end CodeHighlight
