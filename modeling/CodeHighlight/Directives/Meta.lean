import CodeHighlight.Directives

/-!
# Reading directives

The text behind the language on a fence's opening line. Each directive is looked up on its own, so
a malformed one hides no other and their order does not matter.

* `{1,3-5}`: highlighted lines; the first closed pair of braces that does not follow `focus`.
* `focus{2-3}`: focused lines; the first closed pair of braces that follows `focus`.
* `showLineNumbers` or `lineNumbers`: numbered lines, from `N` with `:N` directly behind.
* `+1,3` and `-2`: added and removed lines; a hyphen behind a digit belongs to a range.

The functions below walk along the text with the characters already passed in `before`, the nearest
first.
-/

namespace CodeHighlight.Directives

/-- The keyword of the focus directive, last character first. -/
def focusReversed : List Char := ['s', 'u', 'c', 'o', 'f']

/-- The characters passed end with the focus keyword. -/
def followsFocus (before : List Char) : Bool := focusReversed.isPrefixOf before

/-- The text up to the next brace, if that brace closes. -/
def groupBody? (text : List Char) : Option (List Char) :=
  match text.dropWhile fun c => c ≠ '{' && c ≠ '}' with
  | '}' :: _ => some (text.takeWhile fun c => c ≠ '{' && c ≠ '}')
  | _ => none

/-- The text inside the first closed pair of braces that follows the focus keyword, or that does
not, as `focused` says. -/
def firstGroup? (focused : Bool) (before : List Char) : List Char → Option (List Char)
  | [] => none
  | c :: rest =>
    if c = '{' ∧ followsFocus before = focused then
      (groupBody? rest).or (firstGroup? focused (c :: before) rest)
    else firstGroup? focused (c :: before) rest

/-- The two spellings of the line number flag. -/
def numberFlags : List (List Char) := ["showLineNumbers".toList, "lineNumbers".toList]

/-- What follows a line number flag at the front. -/
def afterFlag? (text : List Char) : Option (List Char) :=
  (numberFlags.find? (·.isPrefixOf text)).map fun flag => text.drop flag.length

/-- A line number flag occurs in the text. -/
def hasFlag : List Char → Bool
  | [] => false
  | c :: rest => (afterFlag? (c :: rest)).isSome || hasFlag rest

/-- The digits behind a colon at the front. -/
def colonDigits? : List Char → Option (List Char)
  | ':' :: rest =>
    let digits := rest.takeWhile Text.isDigit
    if digits.isEmpty then none else some digits
  | _ => none

/-- The digits of the first flag with a number. -/
def firstStart? : List Char → Option (List Char)
  | [] => none
  | c :: rest => ((afterFlag? (c :: rest)).bind colonDigits?).or (firstStart? rest)

/-- The longest list of numbers with single commas between them at the front. -/
def numberRuns (text : List Char) : List (List Char) :=
  text.takeWhile Text.isDigit ::
    match _h : text.dropWhile Text.isDigit with
    -- A comma without a digit behind it ends the list and belongs to what follows.
    | ',' :: d :: rest => if Text.isDigit d then numberRuns (d :: rest) else []
    | _ => []
termination_by text.length
decreasing_by
  have shorter := (List.dropWhile_sublist (l := text) Text.isDigit).length_le
  rw [_h] at shorter
  simp only [List.length_cons] at shorter
  simp only [List.length_cons]
  omega

/-- The list behind the first `sign` that a digit follows. With `alone`, a digit before the sign
rules it out. -/
def firstNumbers? (sign : Char) (alone : Bool) (before : List Char) :
    List Char → Option (List (List Char))
  | [] => none
  | c :: rest =>
    if c = sign ∧ (rest.head?.any Text.isDigit) ∧ ¬(alone ∧ before.head?.any Text.isDigit) then
      some (numberRuns rest)
    else firstNumbers? sign alone (c :: before) rest

/-- The set of the numbers behind a sign; one number with too many digits drops the whole list. -/
def markedLines? (sign : Char) (alone : Bool) (text : List Char) : Option LineSet := do
  let runs ← firstNumbers? sign alone [] text
  let numbers ← runs.mapM Text.readNumeral?
  return LineSet.ofLines (numbers.map Int.ofNat)

/-- The highlight selector without blanks, if its group is a selector. -/
def highlighted? (text : List Char) : Option String := do
  let group ← firstGroup? false [] text
  let _ ← LineSet.ofSelector? group
  return String.ofList (Text.joinWith [','] ((Text.splitAt ',' group).map Text.trim))

/-- The first line number; a flag without a usable number counts from one. -/
def numbering? (text : List Char) : Option Int :=
  if hasFlag text then
    some ((((firstStart? text).bind Text.readNumeral?).map Int.ofNat).getD 1)
  else none

/-- Marked lines, if there are any marks. -/
def diff? (text : List Char) : Option DiffMarks :=
  let added := markedLines? '+' false text
  let removed := markedLines? '-' true text
  if added.isNone && removed.isNone then none else some ⟨added, removed⟩

/-- Focused lines. -/
def focus? (text : List Char) : Option LineSet :=
  (firstGroup? true [] text).bind LineSet.ofSelector?

/-- The directives of a text. -/
def ofChars (text : List Char) : Directives where
  highlighted := highlighted? text
  numbering := numbering? text
  diff := diff? text
  focus := focus? text

/-- The directives of the text behind a fence's language, if there is one. -/
def ofMeta (source : Option String) : Directives :=
  match source with
  | none => {}
  | some text => ofChars text.toList

end CodeHighlight.Directives
