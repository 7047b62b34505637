import CodeHighlight.Block.Script
import CodeHighlight.Proofs.Json.Literal

/-!
# Values of JSON inside a script, read again

Inside a script the slash of a closing tag is written with a backslash before it. Only strings can
hold one, and inside a string the escaped slash is read as a slash, so every value without fractions
is read as what it was.
-/

namespace CodeHighlight

open Block (guardClosing)

namespace Block

/-- A character other than the less-than sign is written as it is. -/
theorem guardClosing_cons (c : Char) (rest : List Char) (h : c ≠ '<') :
    guardClosing (c :: rest) = c :: guardClosing rest := by
  rw [guardClosing]
  intro _ he
  exact absurd he h

private theorem guardClosing_less (rest : List Char) (h : rest.head? ≠ some '/') :
    guardClosing ('<' :: rest) = '<' :: guardClosing rest := by
  rw [guardClosing]
  rintro more - rfl
  exact h rfl

/-- A text without less-than signs is written as it is, whatever follows. -/
theorem guardClosing_append_of_not_mem (front back : List Char) (h : '<' ∉ front) :
    guardClosing (front ++ back) = front ++ guardClosing back := by
  induction front with
  | nil => rfl
  | cons c front ih =>
    rw [List.mem_cons, not_or] at h
    have hc : c ≠ '<' := fun e => h.1 e.symm
    rw [List.cons_append, guardClosing_cons c _ hc, ih h.2]
    rfl

/-- A character that is no part of a closing tag parts what is written. -/
theorem guardClosing_append_cons (front back : List Char) (c : Char) (hless : c ≠ '<')
    (hslash : c ≠ '/') :
    guardClosing (front ++ c :: back) = guardClosing front ++ c :: guardClosing back := by
  fun_induction guardClosing front with
  | case1 => exact guardClosing_cons c back hless
  | case2 rest ih => simp only [List.cons_append, guardClosing, ih]
  | case3 d rest hd ih =>
    rw [List.cons_append, guardClosing, ih]
    · rfl
    · rintro more rfl he
      cases rest with
      | nil => exact hslash (List.cons.inj he).1
      | cons e rest =>
        rw [List.cons_append, List.cons.injEq] at he
        exact hd rest rfl (congrArg (· :: rest) he.1)

/-- The first character is written first. -/
theorem head?_guardClosing (text : List Char) : (guardClosing text).head? = text.head? := by
  fun_cases guardClosing text <;> rfl

/-- Nothing is left out. -/
theorem length_le_guardClosing (text : List Char) : text.length ≤ (guardClosing text).length := by
  fun_induction guardClosing text with
  | case1 => exact Nat.le_refl 0
  | case2 rest ih => simp only [List.length_cons]; omega
  | case3 c rest _ ih => simp only [List.length_cons]; omega

end Block

namespace Json

/-! ## Strings -/

private theorem head?_flatMap_stringChar (text : List Char) (h : text.head? ≠ some '/') :
    (text.flatMap stringChar).head? ≠ some '/' := by
  cases text with
  | nil => exact h
  | cons c more =>
    rw [List.flatMap_cons]
    rcases stringChar_cases c with hself | ⟨_, hescape, -⟩
    · rw [hself]
      exact h
    · rw [hescape]
      intro he
      cases he

/-- Every character of a guarded text is read, with at least as many steps as the text has
characters. -/
theorem stringBody?_guarded (text rest : List Char) (fuel : Nat) (h : text.length < fuel) :
    stringBody? fuel (guardClosing (text.flatMap stringChar) ++ '"' :: rest) =
      some (text, rest) := by
  fun_induction guardClosing text generalizing fuel with
  | case1 =>
    obtain ⟨fuel, rfl⟩ : ∃ k, fuel = k + 1 := ⟨fuel - 1, by omega⟩
    rfl
  | case2 more ih =>
    obtain ⟨fuel, rfl⟩ : ∃ k, fuel = k + 2 := ⟨fuel - 2, by simp at h; omega⟩
    have hmore := ih fuel (by simp at h; omega)
    have hwritten : guardClosing (('<' :: '/' :: more).flatMap stringChar) =
        '<' :: '\\' :: '/' :: guardClosing (more.flatMap stringChar) := rfl
    rw [hwritten]
    exact stringBody?_self '<' (fuel + 1) ('/' :: more, rest) _ (by decide) (by decide)
      (stringBody?_short '/' '/' fuel (more, rest) _ rfl hmore)
  | case3 c more hc ih =>
    obtain ⟨fuel, rfl⟩ : ∃ k, fuel = k + 1 := ⟨fuel - 1, by omega⟩
    have hmore := ih fuel (by simpa using h)
    -- Only a less-than sign looks at what follows, and where no slash follows it in the text, none
    -- follows in what is written.
    have hwritten : guardClosing ((c :: more).flatMap stringChar) =
        stringChar c ++ guardClosing (more.flatMap stringChar) := by
      rw [List.flatMap_cons]
      by_cases hless : c = '<'
      · subst c
        have hhead : more.head? ≠ some '/' := by
          intro he
          cases more with
          | nil => cases he
          | cons d more =>
            cases he
            exact hc more rfl rfl
        exact Block.guardClosing_less _ (head?_flatMap_stringChar more hhead)
      · apply Block.guardClosing_append_of_not_mem
        rcases stringChar_cases c with hself | ⟨_, hescape, hmem⟩
        · rw [hself, List.mem_singleton]
          exact fun e => hless e.symm
        · rw [hescape, List.mem_cons, not_or]
          exact ⟨by decide, hmem⟩
    rw [hwritten, List.append_assoc]
    exact stringBody?_stringChar c fuel (more, rest) _ hmore

/-! ## Values -/

mutual

/-- No number in the value has a fraction. -/
def isWhole : Json → Bool
  | real _ => false
  | arr items => areWhole items
  | obj members => membersAreWhole members
  | null | bool _ | int _ | str _ => true

/-- No number in the items has a fraction. -/
def areWhole : List Json → Bool
  | [] => true
  | item :: rest => isWhole item && areWhole rest

/-- No number in the members has a fraction. -/
def membersAreWhole : List (String × Json) → Bool
  | [] => true
  | (_, item) :: rest => isWhole item && membersAreWhole rest

end

/-- A character that may begin a value: no blank and no closing bracket. -/
def opensValue (c : Char) : Bool :=
  !(c = ' ' || c = '\n' || c = '\r' || c = '\t') && c ≠ ']' && c ≠ '}'

/-- No blanks stand in front of a value. -/
theorem skipBlanks_of_startsWith (text : List Char) (h : Text.startsWith opensValue text = true) :
    skipBlanks text = text := by
  cases text with
  | nil => rfl
  | cons c rest =>
    have hc : opensValue c = true := by simpa [Text.startsWith] using h
    rw [skipBlanks, List.dropWhile_cons_of_neg]
    simp only [opensValue, Bool.and_eq_true] at hc
    simpa using hc.1.1

/-- The characters of a number are none of those that are used otherwise. -/
theorem ne_of_numeral (c : Char) (hc : c = '-' ∨ c.isDigit = true) (d : Char)
    (hd : d.isDigit = false) (hminus : d ≠ '-') : c ≠ d := by
  rintro rfl
  rcases hc with he | he
  · exact hminus he
  · rw [hd] at he
    cases he

private theorem compact_int (n : Int) : (int n).compact = (toString n).toList := rfl

/-- An array is written as its items between brackets. -/
theorem compact_arr (items : List Json) :
    (arr items).compact = '[' :: (commas (compactItems items) ++ [']']) := rfl

/-- An object is written as its members between brackets. -/
theorem compact_obj (members : List (String × Json)) :
    (obj members).compact = '{' :: (commas (compactMembers members) ++ ['}']) := rfl

/-- A written value begins as one. -/
theorem startsWith_compact (v : Json) (hv : isWhole v = true) :
    Text.startsWith opensValue v.compact = true := by
  cases v with
  | real x => cases hv
  | int n =>
    rw [compact_int]
    cases h : (toString n).toList with
    | nil => exact absurd h (Text.toList_toString_ne_nil n)
    | cons c rest =>
      have hmem : c ∈ (toString n).toList := by
        rw [h]
        exact List.mem_cons_self
      have hother := ne_of_numeral c (Text.eq_or_isDigit_of_mem_toString n c hmem)
      simp [Text.startsWith, opensValue, hother ' ' rfl, hother '\n' rfl, hother '\r' rfl,
        hother '\t' rfl, hother ']' rfl, hother '}' rfl]
  | bool b => cases b <;> rfl
  | _ => rfl

/-- A guarded value begins as a value. -/
theorem startsWith_guarded (v : Json) (hv : isWhole v = true) (back : List Char) :
    Text.startsWith opensValue (guardClosing v.compact ++ back) = true := by
  have hstart := startsWith_compact v hv
  rw [Text.startsWith, ← Block.head?_guardClosing, ← Text.startsWith] at hstart
  rwa [Text.startsWith_append]
  intro he
  rw [he] at hstart
  cases hstart

/-- What stands between the brackets of an array is read as items. -/
theorem value?_arr (fuel : Nat) (text : List Char)
    (h : Text.startsWith opensValue text = true) :
    value? (fuel + 1) ('[' :: text) =
      (items? fuel text).map fun (items, rest) => (.arr items, rest) := by
  rw [value?, skipBlanks_of_startsWith text h]
  split
  · cases h
  · rfl

/-- What stands between the braces of an object is read as members. -/
theorem value?_obj (fuel : Nat) (text : List Char) :
    value? (fuel + 1) ('{' :: '"' :: text) =
      (members? fuel ('"' :: text)).map fun (members, rest) => (.obj members, rest) := by
  rw [value?]
  rfl

/-- Two brackets around a text, as they are guarded. -/
theorem guardClosing_between (opening closing : Char) (text : List Char) (hopen : opening ≠ '<')
    (hless : closing ≠ '<') (hslash : closing ≠ '/') :
    guardClosing (opening :: (text ++ [closing])) =
      opening :: (guardClosing text ++ [closing]) := by
  rw [Block.guardClosing_cons opening _ hopen,
    Block.guardClosing_append_cons text [] closing hless hslash]
  rfl

/-- A guarded string is its guarded characters between quotation marks. -/
theorem guarded_string (text : String) :
    guardClosing (string text) =
      '"' :: (guardClosing (text.toList.flatMap stringChar) ++ ['"']) :=
  guardClosing_between '"' '"' _ (by decide) (by decide) (by decide)

/-- The characters of a guarded string are read, with as many steps as there are characters up to
the end of the text. -/
theorem stringBody?_guarded_length (text : String) (rest : List Char) :
    let body := guardClosing (text.toList.flatMap stringChar) ++ '"' :: rest
    stringBody? (body.length + 1) body = some (text.toList, rest) := by
  apply stringBody?_guarded
  have hguard := Block.length_le_guardClosing (text.toList.flatMap stringChar)
  have hflat := length_le_flatMap_stringChar text.toList
  rw [List.length_append]
  omega

/-- A guarded string is read. -/
theorem value?_guarded_str (text : String) (fuel : Nat) (rest : List Char) :
    value? (fuel + 1) (guardClosing (string text) ++ rest) = some (.str text, rest) := by
  have hread := stringBody?_guarded_length text rest
  rw [guarded_string, List.cons_append, List.append_assoc, List.singleton_append, value?, hread]
  simp

private theorem value?_number (fuel : Nat) (c : Char) (rest : List Char)
    (hc : c = '-' ∨ c.isDigit = true) : value? (fuel + 1) (c :: rest) = number? (c :: rest) := by
  have hother := ne_of_numeral c hc
  rw [value?]
  all_goals
    intro _ he
    exact hother _ (by decide) (by decide) (List.cons.inj he).1

/-- A guarded whole number is read. -/
theorem value?_guarded_int (n : Int) (fuel : Nat) (rest : List Char)
    (hrest : Text.startsWith continuesNumber rest = false) :
    value? (fuel + 1) (guardClosing (toString n).toList ++ rest) = some (.int n, rest) := by
  have hless : '<' ∉ (toString n).toList := by
    intro hmem
    rcases Text.eq_or_isDigit_of_mem_toString n '<' hmem with he | he <;> cases he
  have hguard := Block.guardClosing_append_of_not_mem (toString n).toList [] hless
  have hread := number?_toString n rest hrest
  rw [List.append_nil, guardClosing, List.append_nil] at hguard
  rw [hguard]
  cases h : (toString n).toList with
  | nil => exact absurd h (Text.toList_toString_ne_nil n)
  | cons c more =>
    have hmem : c ∈ (toString n).toList := by
      rw [h]
      exact List.mem_cons_self
    rw [h] at hread
    rw [List.cons_append, value?_number fuel c _ (Text.eq_or_isDigit_of_mem_toString n c hmem)]
    exact hread

/-- The parts behind the first one stand behind a comma. -/
theorem commas_cons (part : List Char) (parts : List (List Char)) (h : parts ≠ []) :
    commas (part :: parts) = part ++ ',' :: commas parts := by
  rw [commas]
  exact h

/-- What is written of several items. -/
theorem compactItems_ne_nil (items : List Json) (h : items ≠ []) : compactItems items ≠ [] := by
  cases items with
  | nil => exact absurd rfl h
  | cons item more => exact List.cons_ne_nil _ _

/-- What is written of several members. -/
theorem compactMembers_ne_nil (members : List (String × Json)) (h : members ≠ []) :
    compactMembers members ≠ [] := by
  cases members with
  | nil => exact absurd rfl h
  | cons member more => exact List.cons_ne_nil _ _

/-- Guarded items behind the first one stand behind a comma. -/
theorem guarded_items_cons (item : Json) (more : List Json) (h : more ≠ []) :
    guardClosing (commas (compactItems (item :: more))) =
      guardClosing item.compact ++ ',' :: guardClosing (commas (compactItems more)) := by
  rw [compactItems, commas_cons _ _ (compactItems_ne_nil more h)]
  exact Block.guardClosing_append_cons _ _ ',' (by decide) (by decide)

/-- A guarded member is a guarded key, a colon and a guarded value. -/
theorem guarded_member (key : String) (item : Json) :
    guardClosing (string key ++ ':' :: item.compact) =
      guardClosing (string key) ++ ':' :: guardClosing item.compact :=
  Block.guardClosing_append_cons _ _ ':' (by decide) (by decide)

/-- Guarded members behind the first one stand behind a comma. -/
theorem guarded_members_cons (key : String) (item : Json) (more : List (String × Json))
    (h : more ≠ []) :
    guardClosing (commas (compactMembers ((key, item) :: more))) =
      guardClosing (string key) ++ ':' :: (guardClosing item.compact ++
        ',' :: guardClosing (commas (compactMembers more))) := by
  rw [compactMembers, commas_cons _ _ (compactMembers_ne_nil more h),
    Block.guardClosing_append_cons _ _ ',' (by decide) (by decide), guarded_member,
    List.append_assoc]
  rfl

/-- Guarded items begin as a value. -/
theorem startsWith_guarded_items (items : List Json) (hv : areWhole items = true)
    (hne : items ≠ []) (rest : List Char) :
    Text.startsWith opensValue (guardClosing (commas (compactItems items)) ++ rest) = true := by
  cases items with
  | nil => exact absurd rfl hne
  | cons item more =>
    rw [areWhole, Bool.and_eq_true] at hv
    by_cases hmore : more = []
    · subst more
      exact startsWith_guarded item hv.1 rest
    · rw [guarded_items_cons item more hmore, List.append_assoc]
      exact startsWith_guarded item hv.1 _

/-- Guarded members begin with a quotation mark. -/
theorem exists_guarded_members (members : List (String × Json)) (hne : members ≠ [])
    (rest : List Char) :
    ∃ text, guardClosing (commas (compactMembers members)) ++ rest = '"' :: text := by
  cases members with
  | nil => exact absurd rfl hne
  | cons member more =>
    obtain ⟨key, item⟩ := member
    have hkey := guarded_string key
    by_cases hmore : more = []
    · subst more
      rw [compactMembers, compactMembers, commas, guarded_member, hkey]
      exact ⟨_, rfl⟩
    · rw [guarded_members_cons key item more hmore, hkey]
      exact ⟨_, rfl⟩

/-- A guarded key and a value behind it are read as a member. -/
theorem members?_guarded_key (key : String) (item : Json) (fuel : Nat) (text rest : List Char)
    (hstart : Text.startsWith opensValue text = true)
    (hitem : value? fuel text = some (item, rest)) :
    members? (fuel + 1) (guardClosing (string key) ++ ':' :: text) =
      match skipBlanks rest with
      | ',' :: rest => (members? fuel (skipBlanks rest)).map fun (members, rest) =>
          ((key, item) :: members, rest)
      | '}' :: rest => some ([(key, item)], rest)
      | _ => none := by
  have hkey := stringBody?_guarded_length key (':' :: text)
  have hcolon : skipBlanks (':' :: text) = ':' :: text := rfl
  have hblanks := skipBlanks_of_startsWith text hstart
  rw [guarded_string, List.cons_append, List.append_assoc, List.singleton_append, members?, hkey]
  simp only [Option.bind_eq_bind, Option.bind_some, hcolon, hblanks, hitem, String.ofList_toList,
    Option.map_eq_bind]
  rfl

mutual

/-- A guarded value is read, whatever follows that does not go on with a number. -/
theorem value?_guarded (v : Json) (hv : isWhole v = true) (fuel : Nat) (rest : List Char)
    (hfuel : v.compact.length ≤ fuel) (hrest : Text.startsWith continuesNumber rest = false) :
    value? fuel (guardClosing v.compact ++ rest) = some (v, rest) := by
  -- What is written has a character, so there is a step left to take.
  obtain ⟨fuel, rfl⟩ : ∃ k, fuel = k + 1 := by
    have hstart := startsWith_compact v hv
    cases hcompact : v.compact with
    | nil =>
      rw [hcompact] at hstart
      cases hstart
    | cons c more =>
      rw [hcompact, List.length_cons] at hfuel
      exact ⟨fuel - 1, by omega⟩
  cases v with
  | null => rfl
  | bool b => cases b <;> rfl
  | int n => exact value?_guarded_int n fuel rest hrest
  | real x => cases hv
  | str s => exact value?_guarded_str s fuel rest
  | arr items =>
    by_cases hne : items = []
    · subst items
      rfl
    · rw [compact_arr, List.length_cons, List.length_append, List.length_singleton] at hfuel
      have hread := items?_guarded items hv hne fuel rest (by omega)
      rw [compact_arr, guardClosing_between '[' ']' _ (by decide) (by decide) (by decide),
        List.cons_append, List.append_assoc, List.singleton_append, value?_arr, hread]
      · rfl
      · exact startsWith_guarded_items items hv hne _
  | obj members =>
    by_cases hne : members = []
    · subst members
      rfl
    · rw [compact_obj, List.length_cons, List.length_append, List.length_singleton] at hfuel
      have hread := members?_guarded members hv hne fuel rest (by omega)
      obtain ⟨text, htext⟩ := exists_guarded_members members hne ('}' :: rest)
      rw [compact_obj, guardClosing_between '{' '}' _ (by decide) (by decide) (by decide),
        List.cons_append, List.append_assoc, List.singleton_append, htext, value?_obj, ← htext,
        hread]
      rfl

/-- Guarded items are read up to the end of their array. -/
theorem items?_guarded (items : List Json) (hv : areWhole items = true) (hne : items ≠ [])
    (fuel : Nat) (rest : List Char) (hfuel : (commas (compactItems items)).length < fuel) :
    items? fuel (guardClosing (commas (compactItems items)) ++ ']' :: rest) =
      some (items, rest) := by
  obtain ⟨fuel, rfl⟩ : ∃ k, fuel = k + 1 := ⟨fuel - 1, by omega⟩
  cases items with
  | nil => exact absurd rfl hne
  | cons item more =>
    rw [areWhole, Bool.and_eq_true] at hv
    by_cases hmore : more = []
    · subst more
      have hitem := value?_guarded item hv.1 fuel (']' :: rest) (Nat.le_of_lt_succ hfuel) rfl
      rw [compactItems, compactItems, commas, items?, hitem]
      rfl
    · rw [compactItems, commas_cons _ _ (compactItems_ne_nil more hmore), List.length_append,
        List.length_cons] at hfuel
      have hitem := value?_guarded item hv.1 fuel
        (',' :: (guardClosing (commas (compactItems more)) ++ ']' :: rest)) (by omega) rfl
      have hmoreItems := items?_guarded more hv.2 hmore fuel rest (by omega)
      have hblanks := skipBlanks_of_startsWith _
        (startsWith_guarded_items more hv.2 hmore (']' :: rest))
      have hcomma : skipBlanks (',' :: (guardClosing (commas (compactItems more)) ++ ']' :: rest)) =
          ',' :: (guardClosing (commas (compactItems more)) ++ ']' :: rest) := rfl
      rw [guarded_items_cons item more hmore, List.append_assoc, List.cons_append, items?, hitem]
      simp only [Option.bind_eq_bind, Option.bind_some, hcomma, hblanks, hmoreItems,
        Option.pure_def]

/-- Guarded members are read up to the end of their object. -/
theorem members?_guarded (members : List (String × Json)) (hv : membersAreWhole members = true)
    (hne : members ≠ []) (fuel : Nat) (rest : List Char)
    (hfuel : (commas (compactMembers members)).length < fuel) :
    members? fuel (guardClosing (commas (compactMembers members)) ++ '}' :: rest) =
      some (members, rest) := by
  obtain ⟨fuel, rfl⟩ : ∃ k, fuel = k + 1 := ⟨fuel - 1, by omega⟩
  cases members with
  | nil => exact absurd rfl hne
  | cons member more =>
    obtain ⟨key, item⟩ := member
    rw [membersAreWhole, Bool.and_eq_true] at hv
    by_cases hmore : more = []
    · subst more
      rw [compactMembers, compactMembers, commas, List.length_append, List.length_cons] at hfuel
      have hitem := value?_guarded item hv.1 fuel ('}' :: rest) (by omega) rfl
      rw [compactMembers, compactMembers, commas, guarded_member, List.append_assoc,
        List.cons_append, members?_guarded_key key item fuel _ _ (startsWith_guarded item hv.1 _)
          hitem]
      rfl
    · rw [compactMembers, commas_cons _ _ (compactMembers_ne_nil more hmore), List.length_append,
        List.length_append, List.length_cons, List.length_cons] at hfuel
      have hitem := value?_guarded item hv.1 fuel
        (',' :: (guardClosing (commas (compactMembers more)) ++ '}' :: rest)) (by omega) rfl
      have hmoreMembers := members?_guarded more hv.2 hmore fuel rest (by omega)
      have hcomma :
          skipBlanks (',' :: (guardClosing (commas (compactMembers more)) ++ '}' :: rest)) =
          ',' :: (guardClosing (commas (compactMembers more)) ++ '}' :: rest) := rfl
      obtain ⟨text, htext⟩ := exists_guarded_members more hmore ('}' :: rest)
      -- The next name follows its comma at once.
      have hblanks : skipBlanks (guardClosing (commas (compactMembers more)) ++ '}' :: rest) =
          guardClosing (commas (compactMembers more)) ++ '}' :: rest := by
        rw [htext]
        rfl
      rw [guarded_members_cons key item more hmore, List.append_assoc, List.cons_append,
        List.append_assoc, List.cons_append,
        members?_guarded_key key item fuel _ _ (startsWith_guarded item hv.1 _) hitem, hcomma]
      simp only [hblanks, hmoreMembers, Option.map_some]

end

end Json

end CodeHighlight
