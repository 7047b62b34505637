/-!
# Themes

A theme colours tokens by the short keys of their kinds. The rules that a theme yields can only set
colours and an underline, since the browser allows no more for highlighted ranges. A gallery finds
themes by their names.
-/

namespace CodeHighlight

/-- A text without line feeds. -/
def OneLine (text : String) : Prop := '\n' ∉ text.toList

instance (text : String) : Decidable (OneLine text) :=
  inferInstanceAs (Decidable ('\n' ∉ text.toList))

/-- How tokens of a key look; colours are six hexadecimal digits. -/
structure TokenStyle where
  color : Option String := none
  background : Option String := none
  underline : Bool := false
deriving Repr, DecidableEq

/-- A theme. The colours of the whole block are written as the style sheet takes them. -/
structure Theme where
  /-- Behind the code. -/
  background : String
  /-- Behind highlighted lines. -/
  highlight : String
  /-- Of the line numbers. -/
  lineNumber : String := "inherit"
  /-- Of plain text. -/
  text : Option String := none
  /-- Keys that share a style. -/
  styles : List (List String × TokenStyle)
deriving Repr, DecidableEq

namespace TokenStyle

/-- The declarations of a style, in a fixed order. -/
def declarations (s : TokenStyle) : List String :=
  (s.color.map fun c => "color: #" ++ c ++ ";").toList ++
  (s.background.map fun c => "background-color: #" ++ c ++ ";").toList ++
  (if s.underline then ["text-decoration: underline;"] else [])

/-- No colour of the style has a line feed. -/
def IsOneLine (s : TokenStyle) : Prop :=
  (∀ c ∈ s.color, OneLine c) ∧ ∀ c ∈ s.background, OneLine c

instance (s : TokenStyle) : Decidable s.IsOneLine :=
  inferInstanceAs (Decidable ((∀ c ∈ s.color, OneLine c) ∧ ∀ c ∈ s.background, OneLine c))

end TokenStyle

namespace Theme

/-- The style of a key; a key that is not listed has none. -/
def style (theme : Theme) (key : String) : TokenStyle :=
  ((theme.styles.find? fun group => group.1.contains key).map Prod.snd).getD {}

/-- The declarations for a key in one line; empty where the theme leaves tokens as they are. -/
def rule (theme : Theme) (key : String) : String :=
  String.intercalate " " (theme.style key).declarations

/-- The declarations for the whole block. -/
def container (theme : Theme) : String :=
  "background-color: " ++ theme.background ++ ";" ++
    (theme.text.elim "" fun c => " color: #" ++ c ++ ";")

/-- Nothing that the theme writes has a line feed. -/
structure IsOneLine (theme : Theme) : Prop where
  background : OneLine theme.background
  highlight : OneLine theme.highlight
  lineNumber : OneLine theme.lineNumber
  text : ∀ c ∈ theme.text, OneLine c
  styles : ∀ group ∈ theme.styles, group.2.IsOneLine

instance (theme : Theme) : Decidable theme.IsOneLine :=
  decidable_of_iff (OneLine theme.background ∧ OneLine theme.highlight ∧ OneLine theme.lineNumber ∧
      (∀ c ∈ theme.text, OneLine c) ∧ ∀ group ∈ theme.styles, group.2.IsOneLine)
    ⟨fun h => ⟨h.1, h.2.1, h.2.2.1, h.2.2.2.1, h.2.2.2.2⟩,
      fun h => ⟨h.background, h.highlight, h.lineNumber, h.text, h.styles⟩⟩

/-- Themes by name. A rule of a style sheet takes one line, so no theme has a line feed. -/
structure Gallery where
  find? : String → Option Theme
  oneLine : ∀ name theme, find? name = some theme → theme.IsOneLine

end Theme

end CodeHighlight
