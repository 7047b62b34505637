import CodeHighlight.Proofs.Block.Bundle
import CodeHighlight.Proofs.Json.Guarded
import CodeHighlight.Proofs.Text.Run

/-!
# Closing tags in the script of a block

A script ends with its closing tag. Nothing that the ranges hold closes it before, since every slash
behind a less-than sign is guarded there. The label is not guarded: each closing tag in the label,
in any case of its letters, stands in the script as well.
-/

namespace CodeHighlight

namespace Text

/-- The text begins with a mark, the letters in any case. -/
def beginsWith (mark text : List Char) : Bool := mark.isPrefixOf (text.map Char.toLower)

/-- In how many places of a text a mark stands, the letters in any case. -/
def occurrences (mark : List Char) : List Char → Nat
  | [] => 0
  | c :: rest => (if beginsWith mark (c :: rest) then 1 else 0) + occurrences mark rest

/-- A character is the same in small letters unless it is a capital letter. -/
theorem toLower_cases (c : Char) :
    c.toLower = c ∨ 0x41 ≤ c.toNat ∧ c.toNat ≤ 0x5A ∧ c.toLower.toNat = c.toNat + 0x20 := by
  unfold Char.toLower
  split
  · next h =>
    have hlow : 0x41 ≤ c.toNat := h.1
    have hhigh : c.toNat ≤ 0x5A := h.2
    refine .inr ⟨hlow, hhigh, ?_⟩
    change (c.val + 0x20).toNat = c.toNat + 0x20
    rw [UInt32.toNat_add]
    change (c.toNat + 0x20) % 2 ^ 32 = c.toNat + 0x20
    omega
  · exact .inl rfl

/-- In small letters only a character before them itself becomes that character. -/
theorem ne_toLower (m c : Char) (hm : m.toNat < 0x61) (h : c ≠ m) : m ≠ c.toLower := by
  intro he
  rcases toLower_cases c with hsame | ⟨hlow, -, hlower⟩
  · exact h (hsame ▸ he).symm
  · rw [← he] at hlower
    omega

/-- The first characters are compared first. -/
theorem beginsWith_cons (m c : Char) (mark text : List Char) :
    beginsWith (m :: mark) (c :: text) = (m == c.toLower && beginsWith mark text) := rfl

private theorem beginsWith_append (mark front back : List Char)
    (h : startsWith (fun c => mark.contains c.toLower) back = false) :
    beginsWith mark (front ++ back) = beginsWith mark front := by
  induction mark generalizing front with
  | nil => rfl
  | cons m mark ih =>
    have hmark : startsWith (fun c => mark.contains c.toLower) back = false := by
      cases back with
      | nil => rfl
      | cons d back =>
        simp only [startsWith, List.head?_cons, Option.any_some, List.contains_cons,
          Bool.or_eq_false_iff] at h ⊢
        exact h.2
    cases front with
    | nil =>
      cases back with
      | nil => rfl
      | cons d back =>
        simp only [startsWith, List.head?_cons, Option.any_some, List.contains_cons,
          Bool.or_eq_false_iff] at h
        rw [List.nil_append, beginsWith_cons, BEq.comm, h.1]
        rfl
    | cons c front => rw [List.cons_append, beginsWith_cons, beginsWith_cons, ih front hmark]

/-- The places in two texts, where no mark reaches from the one into the other. -/
theorem occurrences_append (mark front back : List Char)
    (h : startsWith (fun c => mark.contains c.toLower) back = false) :
    occurrences mark (front ++ back) = occurrences mark front + occurrences mark back := by
  induction front with
  | nil => exact (Nat.zero_add _).symm
  | cons c front ih =>
    have hbegins := beginsWith_append mark (c :: front) back h
    rw [List.cons_append] at hbegins
    rw [List.cons_append, occurrences, occurrences, hbegins, ih, Nat.add_assoc]

/-- A mark with a less-than sign in front does not stand at other characters. -/
theorem occurrences_append_of_not_mem (mark front back : List Char) (h : '<' ∉ front) :
    occurrences ('<' :: mark) (front ++ back) = occurrences ('<' :: mark) back := by
  induction front with
  | nil => rfl
  | cons c front ih =>
    rw [List.mem_cons, not_or] at h
    have hc : ('<' == c.toLower) = false :=
      beq_false_of_ne (ne_toLower '<' c (by decide) fun he => h.1 he.symm)
    rw [List.cons_append, occurrences, beginsWith_cons, hc, ih h.2]
    exact Nat.zero_add _

/-- A mark whose second character is not in a text does not stand there. -/
theorem occurrences_of_not_mem (m n : Char) (mark text : List Char) (hn : n.toNat < 0x61)
    (h : n ∉ text) : occurrences (m :: n :: mark) text = 0 := by
  induction text with
  | nil => rfl
  | cons c text ih =>
    rw [List.mem_cons, not_or] at h
    have hbehind : beginsWith (n :: mark) text = false := by
      cases text with
      | nil => rfl
      | cons d text =>
        rw [List.mem_cons, not_or] at h
        rw [beginsWith_cons, beq_false_of_ne (ne_toLower n d hn fun he => h.2.1 he.symm)]
        rfl
    rw [occurrences, beginsWith_cons, hbehind, Bool.and_false, ih h.2]
    rfl

/-- The characters of a literal are those that it is written with. -/
theorem not_mem_toList (c : Char) (text : String) (chars : List Char)
    (htext : text = String.ofList chars) (h : c ∉ chars) : c ∉ text.toList := by
  rwa [htext, String.toList_ofList]

end Text

namespace Json

private theorem stringChar_of_toLower (c : Char) (h : stringChar c.toLower = [c.toLower]) :
    stringChar c = [c] := by
  have hcapitals : ∀ i ∈ List.range 26,
      stringChar (Char.ofNat (0x41 + i)) = [Char.ofNat (0x41 + i)] := by decide +kernel
  rcases Text.toLower_cases c with hsame | ⟨hlow, hhigh, -⟩
  · rwa [hsame] at h
  · have hc := hcapitals (c.toNat - 0x41) (List.mem_range.mpr (by omega))
    rwa [Nat.add_sub_cancel' hlow, Char.ofNat_toNat] at hc

private theorem beginsWith_flatMap_stringChar (mark text : List Char)
    (h : ∀ m ∈ mark, stringChar m = [m]) :
    Text.beginsWith mark (text.flatMap stringChar) = Text.beginsWith mark text := by
  induction mark generalizing text with
  | nil => rfl
  | cons m mark ih =>
    cases text with
    | nil => rfl
    | cons c text =>
      have hmore := ih text fun d hd => h d (List.mem_cons_of_mem m hd)
      have hm := h m List.mem_cons_self
      rw [List.flatMap_cons, Text.beginsWith_cons]
      rcases stringChar_cases c with hself | ⟨more, hescape, -⟩
      · rw [hself, List.singleton_append, Text.beginsWith_cons, hmore]
      · -- neither the backslash nor the character behind it is in the mark
        have hfirst : (m == '\\'.toLower) = false := by
          apply beq_false_of_ne
          rintro rfl
          exact absurd hm (by decide)
        have hplain : (m == c.toLower) = false := by
          apply beq_false_of_ne
          rintro rfl
          rw [stringChar_of_toLower c hm, List.cons.injEq] at hescape
          rw [hescape.1] at hm
          exact absurd hm (by decide)
        rw [hescape, List.cons_append, Text.beginsWith_cons, hfirst, hplain]
        rfl

/-- A mark of plain characters with a less-than sign in front stands in a written text as often as
in the text. -/
theorem occurrences_flatMap_stringChar (mark text : List Char)
    (h : ∀ m ∈ '<' :: mark, stringChar m = [m]) :
    Text.occurrences ('<' :: mark) (text.flatMap stringChar) =
      Text.occurrences ('<' :: mark) text := by
  induction text with
  | nil => rfl
  | cons c text ih =>
    have hbegins := beginsWith_flatMap_stringChar _ (c :: text) h
    rw [List.flatMap_cons] at hbegins ⊢
    rcases stringChar_cases c with hself | ⟨more, hescape, hmore⟩
    · rw [hself, List.singleton_append] at hbegins ⊢
      rw [Text.occurrences, Text.occurrences, hbegins, ih]
    · rw [hescape] at hbegins ⊢
      have hnone : Text.beginsWith ('<' :: mark) (c :: text) = false := hbegins.symm
      have hless : '<' ∉ '\\' :: more := by
        rw [List.mem_cons, not_or]
        exact ⟨by decide, hmore⟩
      rw [Text.occurrences_append_of_not_mem mark _ _ hless, Text.occurrences, hnone, ih]
      exact (Nat.zero_add _).symm

end Json

namespace Block

/-- The end of a script is recognized by these characters, the letters in any case. -/
def closingMark : List Char := "</script".toList

/-- The tag that closes a script. -/
def closingTag : List Char := "</script>".toList

/-- A guarded text holds no slash behind a less-than sign. -/
theorem occurrences_guardClosing (mark text : List Char) :
    Text.occurrences ('<' :: '/' :: mark) (guardClosing text) = 0 := by
  fun_induction guardClosing text with
  | case1 => rfl
  | case2 rest ih =>
    rw [Text.occurrences, Text.occurrences, Text.occurrences, ih]
    rfl
  | case3 c rest hc ih =>
    rw [Text.occurrences, ih, Text.beginsWith_cons]
    by_cases hless : c = '<'
    · have hslash : Text.beginsWith ('/' :: mark) (guardClosing rest) = false := by
        have hhead := head?_guardClosing rest
        cases hrest : guardClosing rest with
        | nil => rfl
        | cons d more =>
          rw [hrest, List.head?_cons] at hhead
          have hd : d ≠ '/' := by
            rintro rfl
            obtain ⟨more, rfl⟩ := List.head?_eq_some_iff.mp hhead.symm
            exact hc more hless rfl
          rw [Text.beginsWith_cons, beq_false_of_ne (Text.ne_toLower '/' d (by decide) hd)]
          rfl
      rw [hslash, Bool.and_false]
      rfl
    · rw [beq_false_of_ne (Text.ne_toLower '<' c (by decide) hless)]
      rfl

private theorem occurrences_scriptHead : Text.occurrences closingMark scriptHead.toList = 0 := by
  apply Text.occurrences_of_not_mem '<' '/' _ _ (by decide)
  unfold scriptHead
  simp only [String.toList_append, List.mem_append, not_or]
  and_intros
  all_goals
    apply Text.not_mem_toList _ _ _ rfl
    decide

private theorem occurrences_scriptMiddle : Text.occurrences closingMark scriptMiddle.toList = 0 ∧
    Text.startsWith (fun c => closingMark.contains c.toLower) scriptMiddle.toList = false := by
  unfold scriptMiddle
  constructor
  · apply Text.occurrences_of_not_mem '<' '/' _ _ (by decide)
    simp only [String.toList_append, List.mem_append, not_or]
    and_intros
    all_goals
      apply Text.not_mem_toList _ _ _ rfl
      decide
  · simp only [String.toList_append, List.append_assoc]
    rw [Text.startsWith_append _ _ _ (by decide)]
    decide

/-- The script behind the ranges is a text without closing tags, and the closing tag. -/
theorem exists_scriptTail : ∃ ending, scriptTail.toList = ending ++ closingTag ∧
    Text.occurrences closingMark ending = 0 ∧
    Text.occurrences closingMark scriptTail.toList = 1 ∧
    ∀ back, Text.startsWith (fun c => closingMark.contains c.toLower) (ending ++ back) = false := by
  -- the last line holds the tag, the lines before it hold no slash
  have hlines : ∃ lines, scriptTail.toList = lines ++ "  \x7d\n\x7d)();\n</script>".toList ∧
      '/' ∉ lines ∧
      Text.startsWith (fun c => closingMark.contains c.toLower) (lines ++ [' ']) = false := by
    refine ⟨_, String.toList_append, ?_, ?_⟩
    · simp only [String.toList_append, List.mem_append, not_or]
      and_intros
      all_goals
        apply Text.not_mem_toList _ _ _ rfl
        decide
    · simp only [String.toList_append, List.append_assoc]
      rw [Text.startsWith_append _ _ _ (by decide)]
      decide
  obtain ⟨lines, htail, hslash, hstart⟩ := hlines
  have hnone : Text.occurrences closingMark lines = 0 :=
    Text.occurrences_of_not_mem '<' '/' _ lines (by decide) hslash
  have hlast :
      "  \x7d\n\x7d)();\n</script>".toList = "  \x7d\n\x7d)();\n".toList ++ closingTag := by
    decide
  refine ⟨lines ++ "  \x7d\n\x7d)();\n".toList, ?_, ?_, ?_, ?_⟩
  · rw [htail, hlast, List.append_assoc]
  · rw [Text.occurrences_append _ _ _ (by decide), hnone]
    decide
  · rw [htail, Text.occurrences_append _ _ _ (by decide), hnone]
    decide
  · intro back
    cases lines with
    | nil => rfl
    | cons c lines => exact hstart

/-- Before a text that continues no closing tag, the label and that text alone hold closing tags. -/
theorem occurrences_parts (theme : Theme) (label : String) (ranges : RangeGroups)
    (tail : List Char)
    (htail : Text.startsWith (fun c => closingMark.contains c.toLower) tail = false) :
    Text.occurrences closingMark (scriptHead.toList ++ Json.string label ++ scriptMiddle.toList ++
        guardClosing (rangesValue theme label ranges).compact ++ tail) =
      Text.occurrences closingMark label.toList + Text.occurrences closingMark tail := by
  obtain ⟨hmiddle, hbehind⟩ := occurrences_scriptMiddle
  have hguarded : Text.occurrences closingMark
      (guardClosing (rangesValue theme label ranges).compact) = 0 :=
    occurrences_guardClosing "script".toList _
  have hobject : Text.startsWith (fun c => closingMark.contains c.toLower)
      (guardClosing (rangesValue theme label ranges).compact) = false := by
    rw [rangesValue, Json.compact_obj, guardClosing_cons _ _ (by decide)]
    change closingMark.contains '\x7b'.toLower = false
    decide
  have hlabel : Text.occurrences closingMark (Json.string label) =
      Text.occurrences closingMark label.toList := by
    have hshort : closingMark.all (fun m => decide (Json.stringChar m = [m])) = true := by decide
    have hmarks : ∀ m ∈ closingMark, Json.stringChar m = [m] :=
      fun m hm => of_decide_eq_true (List.all_eq_true.mp hshort m hm)
    have hwritten := Json.occurrences_flatMap_stringChar "/script".toList label.toList hmarks
    have hquote := Text.occurrences_append closingMark (label.toList.flatMap Json.stringChar)
      ['"'] (by decide)
    have hopening := Text.occurrences_append_of_not_mem "/script".toList ['"']
      (label.toList.flatMap Json.stringChar ++ ['"']) (by decide)
    exact hopening.trans (hquote.trans hwritten)
  rw [Text.occurrences_append _ _ _ htail, Text.occurrences_append _ _ _ hobject,
    Text.occurrences_append _ _ _ hbehind, Text.occurrences_append _ _ _ rfl,
    occurrences_scriptHead, hmiddle, hguarded, hlabel]
  omega

/-- A script ends with its closing tag, and before it holds one for each that the label holds. -/
theorem exists_script (theme : Theme) (label : String) (ranges : RangeGroups) :
    ∃ front, script theme label ranges = front ++ closingTag ∧
      Text.occurrences closingMark front = Text.occurrences closingMark label.toList ∧
      Text.occurrences closingMark (script theme label ranges) =
        Text.occurrences closingMark label.toList + 1 := by
  obtain ⟨ending, hending, hnone, honce, hstart⟩ := exists_scriptTail
  have hempty := hstart []
  rw [List.append_nil] at hempty
  have htail := hstart closingTag
  rw [← hending] at htail
  refine ⟨scriptHead.toList ++ Json.string label ++ scriptMiddle.toList ++
    guardClosing (rangesValue theme label ranges).compact ++ ending, ?_, ?_, ?_⟩
  · rw [script, hending, ← List.append_assoc]
  · rw [occurrences_parts theme label ranges ending hempty, hnone]
    rfl
  · rw [script, occurrences_parts theme label ranges _ htail, honce]

end Block

namespace Bundle

/-- A script ends with its closing tag, and before it holds one for each that the label holds. So
nothing closes it before its end if and only if the label holds none. -/
theorem closings_of_render (registry : LexerRegistry) (gallery : Theme.Gallery)
    (request : RenderRequest) (bundle : Bundle)
    (h : render registry request gallery = .ok bundle) :
    ∃ front, bundle.script.toList = front ++ Block.closingTag ∧
      Text.occurrences Block.closingMark front =
        Text.occurrences Block.closingMark request.label.toList ∧
      (Text.occurrences Block.closingMark bundle.script.toList = 1 ↔
        Text.occurrences Block.closingMark request.label.toList = 0) := by
  obtain ⟨theme, tokens, -, -, hscript⟩ := parts_of_render registry gallery request bundle h
  obtain ⟨front, hfront, hcount, htotal⟩ :=
    Block.exists_script theme request.label (.ofTokens tokens)
  refine ⟨front, ?_, hcount, ?_⟩
  · rw [hscript, hfront]
  · rw [hscript, htotal]
    omega

/-- Asks for a word under a label. -/
def labelledRequest (label : String) : RenderRequest := { wordRequest "a" with label := label }

/-- The script under a label with a closing tag that is no script's. -/
theorem closings_bold_label :
    ∃ bundle, render wordRegistry (labelledRequest "<b></b>") = .ok bundle ∧
      ∃ front, bundle.script.toList = front ++ Block.closingTag ∧
        Text.occurrences Block.closingMark front =
          Text.occurrences Block.closingMark (labelledRequest "<b></b>").label.toList ∧
        (Text.occurrences Block.closingMark bundle.script.toList = 1 ↔
          Text.occurrences Block.closingMark (labelledRequest "<b></b>").label.toList = 0) := by
  obtain ⟨bundle, h⟩ : ∃ bundle, render wordRegistry (labelledRequest "<b></b>") = .ok bundle :=
    ⟨_, rfl⟩
  exact ⟨bundle, h, closings_of_render wordRegistry .bundled _ bundle h⟩

/-- Under a label that holds a closing tag the script is closed before its end. -/
theorem closings_script_label :
    ∃ bundle, render wordRegistry (labelledRequest "</SCRIPT>") = .ok bundle ∧
      Text.occurrences Block.closingMark bundle.script.toList = 2 := by
  obtain ⟨bundle, h⟩ : ∃ bundle, render wordRegistry (labelledRequest "</SCRIPT>") = .ok bundle :=
    ⟨_, rfl⟩
  obtain ⟨theme, tokens, -, -, hscript⟩ := parts_of_render wordRegistry .bundled _ bundle h
  obtain ⟨front, -, -, htotal⟩ := Block.exists_script theme "</SCRIPT>" (.ofTokens tokens)
  refine ⟨bundle, h, ?_⟩
  rw [hscript]
  exact htotal.trans (by decide)

end Bundle

end CodeHighlight
