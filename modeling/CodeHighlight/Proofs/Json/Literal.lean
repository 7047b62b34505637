import CodeHighlight.Json.Reader
import CodeHighlight.Proofs.Text.Numeral
import CodeHighlight.Proofs.Text.Run

/-!
# Strings and whole numbers of JSON, read again

A text is written as a JSON string of ASCII characters only: a character outside of ASCII as one or
two escaped units of sixteen bits. Every character is read as what it was, whatever follows.
-/

namespace CodeHighlight.Json

/-! ## Units -/

private theorem hexValue?_digitChar : ∀ d < 16, hexValue? (Nat.digitChar d) = some d := by decide

private theorem hexDigits_succ (width n : Nat) (h : 0 < width) :
    Text.hexDigits (width + 1) n =
      Text.hexDigits width (n / 16) ++ [Nat.digitChar (n % 16)] := by
  rw [Text.hexDigits, Text.hexDigits]
  by_cases hn : n < 16
  · obtain ⟨w, rfl⟩ : ∃ w, width = w + 1 := ⟨width - 1, by omega⟩
    have hzero : n / 16 = 0 := by omega
    have hmod : n % 16 = n := by omega
    have hdigits : Nat.toDigits 16 n = [Nat.digitChar n] := Nat.toDigits_of_lt_base hn
    rw [hzero, hmod, hdigits]
    have hreplicate : List.replicate (w + 1) '0' = List.replicate w '0' ++ ['0'] :=
      List.replicate_succ'
    simp [hreplicate]
  · have hdigits : Nat.toDigits 16 n =
        Nat.toDigits 16 (n / 16) ++ [Nat.digitChar (n % 16)] := by
      rw [Nat.toDigits_eq_if (by decide), if_neg hn]
    have hlength : width + 1 - ((Nat.toDigits 16 (n / 16)).length + 1) =
        width - (Nat.toDigits 16 (n / 16)).length := by omega
    rw [hdigits, List.length_append, List.length_singleton, hlength, List.append_assoc]

/-- Four digits are the four places of a unit. -/
theorem hexDigits_four (n : Nat) (h : n < 0x10000) :
    Text.hexDigits 4 n = [Nat.digitChar (n / 16 / 16 / 16), Nat.digitChar (n / 16 / 16 % 16),
      Nat.digitChar (n / 16 % 16), Nat.digitChar (n % 16)] := by
  have hlast : n / 16 / 16 / 16 < 16 := by omega
  have hone : Text.hexDigits 1 (n / 16 / 16 / 16) = [Nat.digitChar (n / 16 / 16 / 16)] := by
    rw [Text.hexDigits, Nat.toDigits_of_lt_base hlast]
    rfl
  rw [hexDigits_succ 3 n (by decide), hexDigits_succ 2 _ (by decide),
    hexDigits_succ 1 _ (by decide), hone]
  rfl

/-- A written unit is read. -/
theorem unit?_hexDigits (n : Nat) (h : n < 0x10000) (rest : List Char) :
    unit? (Text.hexDigits 4 n ++ rest) = some (n, rest) := by
  have hvalue : ((n / 16 / 16 / 16 * 16 + n / 16 / 16 % 16) * 16 + n / 16 % 16) * 16 + n % 16 =
      n := by omega
  rw [hexDigits_four n h]
  simp only [List.cons_append, List.nil_append, unit?]
  rw [hexValue?_digitChar _ (by omega), hexValue?_digitChar _ (by omega),
    hexValue?_digitChar _ (by omega), hexValue?_digitChar _ (by omega)]
  simp only [Option.bind_eq_bind, Option.bind_some, Option.pure_def, hvalue]

/-! ## Strings -/

/-- The greatest code point. -/
theorem toNat_lt (c : Char) : c.toNat < 0x110000 := by
  rcases c.valid with hlow | hhigh
  · exact Nat.lt_trans hlow (by decide)
  · exact hhigh.2

/-- A character is written as itself or behind a backslash, and then without a less-than sign. -/
theorem stringChar_cases (c : Char) :
    stringChar c = [c] ∨ ∃ more, stringChar c = '\\' :: more ∧ '<' ∉ more := by
  have hdigit : ∀ d < 16, '<' ≠ Nat.digitChar d := by decide
  have hunit (n : Nat) (hn : n < 0x10000) : '<' ∉ unitEscape n := by
    rw [unitEscape, hexDigits_four n hn]
    have h1 := hdigit (n / 16 / 16 / 16) (by omega)
    have h2 := hdigit (n / 16 / 16 % 16) (by omega)
    have h3 := hdigit (n / 16 % 16) (by omega)
    have h4 := hdigit (n % 16) (by omega)
    simp [h1, h2, h3, h4]
  fun_cases stringChar c with
  | case1 h =>
    refine .inr ⟨[c], rfl, ?_⟩
    rcases h with rfl | rfl <;> decide
  | case2 => exact .inr ⟨_, rfl, by decide⟩
  | case3 => exact .inr ⟨_, rfl, by decide⟩
  | case4 => exact .inr ⟨_, rfl, by decide⟩
  | case5 => exact .inr ⟨_, rfl, by decide⟩
  | case6 => exact .inr ⟨_, rfl, by decide⟩
  | case7 => exact .inl rfl
  | case8 _ _ _ _ _ _ _ h =>
    exact .inr ⟨_, rfl, fun he => hunit c.toNat h (List.mem_cons_of_mem _ he)⟩
  | case9 =>
    have hmax := toNat_lt c
    have hpair : '<' ∉ unitEscape (0xD800 + (c.toNat - 0x10000) / 0x400) ++
        unitEscape (0xDC00 + (c.toNat - 0x10000) % 0x400) := by
      rw [List.mem_append, not_or]
      exact ⟨hunit _ (by omega), hunit _ (by omega)⟩
    exact .inr ⟨_, rfl, fun he => hpair (List.mem_cons_of_mem _ he)⟩

/-- No character is left out. -/
theorem length_le_flatMap_stringChar (text : List Char) :
    text.length ≤ (text.flatMap stringChar).length := by
  induction text with
  | nil => exact Nat.le_refl 0
  | cons c more ih =>
    have hpos : 0 < (stringChar c).length := by
      rcases stringChar_cases c with hself | ⟨_, hescape, -⟩
      · rw [hself]
        exact Nat.zero_lt_one
      · rw [hescape]
        exact Nat.zero_lt_succ _
    rw [List.flatMap_cons, List.length_append, List.length_cons]
    omega

private theorem stringBody?_unit (n fuel : Nat) (tail : List Char × List Char) (text : List Char)
    (hn : n < 0xD800 ∨ 0xDFFF < n ∧ n < 0x10000) (h : stringBody? fuel text = some tail) :
    stringBody? (fuel + 1) (unitEscape n ++ text) = some (Char.ofNat n :: tail.1, tail.2) := by
  have hunit := unit?_hexDigits n (by omega) text
  have hhigh : ¬(0xD800 ≤ n ∧ n < 0xDC00) := by omega
  rw [unitEscape, List.cons_append, List.cons_append, stringBody?, hunit]
  simp only [Option.bind_eq_bind, Option.bind_some]
  rw [if_neg hhigh, h]
  rfl

private theorem stringBody?_pair (c : Char) (n fuel : Nat) (tail : List Char × List Char)
    (text : List Char) (hc : 0x10000 + n = c.toNat) (h : stringBody? fuel text = some tail) :
    stringBody? (fuel + 1)
      (unitEscape (0xD800 + n / 0x400) ++ unitEscape (0xDC00 + n % 0x400) ++ text) =
      some (c :: tail.1, tail.2) := by
  have hmax := toNat_lt c
  have hhigh := unit?_hexDigits (0xD800 + n / 0x400) (by omega)
    (unitEscape (0xDC00 + n % 0x400) ++ text)
  have hlow : lowUnit? (unitEscape (0xDC00 + n % 0x400) ++ text) =
      some (0xDC00 + n % 0x400, text) := by
    rw [unitEscape, List.cons_append, List.cons_append, lowUnit?,
      unit?_hexDigits _ (by omega) text]
    simp only [Option.bind_eq_bind, Option.bind_some]
    exact if_pos (by omega)
  have hvalue : 0x10000 + (0xD800 + n / 0x400 - 0xD800) * 0x400 +
      (0xDC00 + n % 0x400 - 0xDC00) = c.toNat := by omega
  rw [List.append_assoc, unitEscape, List.cons_append, List.cons_append, stringBody?, hhigh]
  simp only [Option.bind_eq_bind, Option.bind_some]
  rw [if_pos (by omega), hlow]
  dsimp only
  rw [h, hvalue, Char.ofNat_toNat]
  rfl

/-- A backslash and a letter are read as the character that they stand for. -/
theorem stringBody?_short (letter c : Char) (fuel : Nat) (tail : List Char × List Char)
    (text : List Char) (hc : shortEscape? letter = some c) (h : stringBody? fuel text = some tail) :
    stringBody? (fuel + 1) ('\\' :: letter :: text) = some (c :: tail.1, tail.2) := by
  have hu : letter ≠ 'u' := by
    rintro rfl
    cases hc
  rw [stringBody?, hc, h]
  · rfl
  · exact hu

/-- A character that neither ends the string nor begins an escape is read as itself. -/
theorem stringBody?_self (c : Char) (fuel : Nat) (tail : List Char × List Char)
    (text : List Char) (hquote : c ≠ '"') (hslash : c ≠ '\\')
    (h : stringBody? fuel text = some tail) :
    stringBody? (fuel + 1) (c :: text) = some (c :: tail.1, tail.2) := by
  rw [stringBody?, h]
  · rfl
  all_goals simp [hquote, hslash]

/-- A written character is read. -/
theorem stringBody?_stringChar (c : Char) (fuel : Nat) (tail : List Char × List Char)
    (text : List Char) (h : stringBody? fuel text = some tail) :
    stringBody? (fuel + 1) (stringChar c ++ text) = some (c :: tail.1, tail.2) := by
  by_cases hmark : c = '"' ∨ c = '\\'
  · rw [stringChar, if_pos hmark]
    apply stringBody?_short c c fuel tail text _ h
    rcases hmark with rfl | rfl <;> rfl
  rw [not_or] at hmark
  by_cases hn : c = '\n'
  · subst c
    exact stringBody?_short 'n' '\n' fuel tail text rfl h
  by_cases hr : c = '\r'
  · subst c
    exact stringBody?_short 'r' '\r' fuel tail text rfl h
  by_cases ht : c = '\t'
  · subst c
    exact stringBody?_short 't' '\t' fuel tail text rfl h
  by_cases hf : c = '\x0C'
  · subst c
    exact stringBody?_short 'f' '\x0C' fuel tail text rfl h
  by_cases hb : c = '\x08'
  · subst c
    exact stringBody?_short 'b' '\x08' fuel tail text rfl h
  rw [stringChar, if_neg (not_or.mpr hmark), if_neg hn, if_neg hr, if_neg ht, if_neg hf, if_neg hb]
  by_cases hprint : 0x20 ≤ c.toNat ∧ c.toNat < 0x7F
  · rw [if_pos hprint]
    exact stringBody?_self c fuel tail text hmark.1 hmark.2 h
  rw [if_neg hprint]
  by_cases hunit : c.toNat < 0x10000
  · -- No character is a surrogate, so a single unit is never taken for one of a pair.
    have hvalid : c.toNat < 0xD800 ∨ 0xDFFF < c.toNat ∧ c.toNat < 0x10000 := by
      rcases c.valid with hlow | hhigh
      · exact .inl hlow
      · exact .inr ⟨hhigh.1, hunit⟩
    have hread := stringBody?_unit c.toNat fuel tail text hvalid h
    rw [if_pos hunit]
    rwa [Char.ofNat_toNat] at hread
  · rw [if_neg hunit]
    exact stringBody?_pair c (c.toNat - 0x10000) fuel tail text (by omega) h

/-- Every character of a text is read, with at least as many steps as the text has characters. -/
theorem stringBody?_flatMap (text rest : List Char) (fuel : Nat) (h : text.length < fuel) :
    stringBody? fuel (text.flatMap stringChar ++ '"' :: rest) = some (text, rest) := by
  induction text generalizing fuel with
  | nil =>
    obtain ⟨fuel, rfl⟩ : ∃ k, fuel = k + 1 := ⟨fuel - 1, by omega⟩
    rfl
  | cons c more ih =>
    obtain ⟨fuel, rfl⟩ : ∃ k, fuel = k + 1 := ⟨fuel - 1, by omega⟩
    have hmore := ih fuel (by simpa using h)
    rw [List.flatMap_cons, List.append_assoc]
    exact stringBody?_stringChar c fuel (more, rest) _ hmore

/-- A written string is read, whatever follows. -/
theorem value?_string (text : String) (fuel : Nat) (rest : List Char) :
    value? (fuel + 1) (string text ++ rest) = some (.str text, rest) := by
  have hlength : text.toList.length <
      (text.toList.flatMap stringChar ++ '"' :: rest).length + 1 := by
    have hflat := length_le_flatMap_stringChar text.toList
    rw [List.length_append]
    omega
  have hread := stringBody?_flatMap text.toList rest _ hlength
  rw [string, List.cons_append, List.append_assoc, List.singleton_append, value?, hread]
  simp

/-! ## Whole numbers -/

/-- A character that goes on with a number. -/
def continuesNumber (c : Char) : Bool := c.isDigit || c = '.' || c = 'e' || c = 'E'

private theorem decimalValue_toDigits (n : Nat) : decimalValue (Nat.toDigits 10 n) = n :=
  Nat.ofDigitChars_toDigits (by decide) (by decide)

/-- A run of digits is read as a whole number, behind a minus sign as its negative, if nothing that
follows goes on with it. -/
theorem number?_digits (negative : Bool) (digits rest : List Char)
    (hdigits : ∀ c ∈ digits, c.isDigit = true) (hne : digits ≠ [])
    (hrest : Text.startsWith continuesNumber rest = false) :
    number? ((if negative then ['-'] else []) ++ digits ++ rest) =
      some (.int (if negative then -(decimalValue digits : Int) else decimalValue digits),
        rest) := by
  have hend : Text.startsWith Char.isDigit rest = false := by
    cases rest with
    | nil => rfl
    | cons c more =>
      simp only [Text.startsWith, List.head?_cons, Option.any_some, continuesNumber,
        Bool.or_eq_false_iff] at hrest ⊢
      exact hrest.1.1.1
  have htake := Text.takeWhile_run Char.isDigit digits rest hdigits hend
  have hdrop := Text.dropWhile_run Char.isDigit digits rest hdigits hend
  have hempty : digits.isEmpty = false := by simp [hne]
  have hnext : ∀ c more, rest = c :: more → c ≠ '.' ∧ c ≠ 'e' ∧ c ≠ 'E' := by
    rintro c more rfl
    simp only [Text.startsWith, List.head?_cons, Option.any_some, continuesNumber,
      Bool.or_eq_false_iff, decide_eq_false_iff_not] at hrest
    exact ⟨hrest.1.1.2, hrest.1.2, hrest.2⟩
  cases negative with
  | true =>
    simp only [if_true, List.cons_append, List.nil_append, number?, htake, hdrop, hempty]
    cases rest with
    | nil => rfl
    | cons c more => simp [hnext c more rfl]
  | false =>
    -- A digit comes first, so no sign is split off.
    have hsign : ∀ more, digits ++ rest = '-' :: more → False := by
      intro more he
      cases digits with
      | nil => exact hne rfl
      | cons d digits =>
        have hd := hdigits d List.mem_cons_self
        rw [(List.cons.inj he).1] at hd
        cases hd
    simp only [Bool.false_eq_true, if_false, List.nil_append, number?, htake, hdrop, hempty]
    cases rest with
    | nil => rfl
    | cons c more => simp [hnext c more rfl]

/-- A written whole number is read, if nothing that follows goes on with it. -/
theorem number?_toString (n : Int) (rest : List Char)
    (hrest : Text.startsWith continuesNumber rest = false) :
    number? ((toString n).toList ++ rest) = some (.int n, rest) := by
  cases n with
  | ofNat m =>
    have hread := number?_digits false _ rest (Text.isDigit_of_mem_toDigits m)
      Nat.toDigits_ne_nil hrest
    rw [Text.toList_toString_ofNat]
    rwa [decimalValue_toDigits] at hread
  | negSucc m =>
    have hread := number?_digits true _ rest (Text.isDigit_of_mem_toDigits (m + 1))
      Nat.toDigits_ne_nil hrest
    rw [Text.toList_toString_negSucc]
    rwa [decimalValue_toDigits] at hread

end CodeHighlight.Json
