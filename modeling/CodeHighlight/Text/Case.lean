import CodeHighlight.Text.CaseTable

/-!
# Letter case

Small and capital forms of a text in every script. A capital sigma at the end of a word becomes the
final small sigma; the dotted capital I becomes two characters.
-/

namespace CodeHighlight.Text

/-- The image of a code point in a table of runs, where one covers it. -/
def caseImage? (runs : List CaseRun) (c : Char) : Option Char :=
  (runs.findSome? (·.image? c.toNat)).map Char.ofNat

/-- The nearest character that does not let case pass through is a letter with case. -/
def meetsCased : List Char → Bool
  | [] => false
  | c :: rest =>
    if caseIgnorableRanges.contains c.toNat then meetsCased rest
    else casedRanges.contains c.toNat

/-- Small form of a text; `before` holds the characters already passed, the nearest first. -/
def lowerFrom (before : List Char) : List Char → List Char
  | [] => []
  | c :: rest =>
    let image :=
      if c = 'Σ' then (if meetsCased before && !meetsCased rest then ['ς'] else ['σ'])
      else if c = 'İ' then ['i', '\u0307']
      else [(caseImage? smallRuns c).getD c]
    image ++ lowerFrom (c :: before) rest

/-- Small form of a text. -/
def lower (text : List Char) : List Char := lowerFrom [] text

/-- Small form of a string. -/
def lowered (text : String) : String := String.ofList (lower text.toList)

/-- Capital form of one character. -/
def upperChar (c : Char) : List Char :=
  match longCapitals.lookup c.toNat with
  | some image => image.map Char.ofNat
  | none => [(caseImage? capitalRuns c).getD c]

/-- Capital form of a text. -/
def upper (text : List Char) : List Char := text.flatMap upperChar

end CodeHighlight.Text
