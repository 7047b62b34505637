import CodeHighlight.Text.Range

/-!
# Blanks

White space of every script, trimming, and cutting a text into words. The zero-width space and the
byte order mark are not blanks.
-/

namespace CodeHighlight.Text

/-- Code points that count as white space. -/
def blankRanges : Ranges :=
  [(0x9, 0xD), (0x1C, 0x20), (0x85, 0x85), (0xA0, 0xA0), (0x1680, 0x1680), (0x2000, 0x200A),
    (0x2028, 0x2029), (0x202F, 0x202F), (0x205F, 0x205F), (0x3000, 0x3000)]

/-- White space of any script. -/
def isBlank (c : Char) : Bool := blankRanges.contains c.toNat

/-- Drops the blanks at the front. -/
def trimLeft (text : List Char) : List Char := text.dropWhile isBlank

/-- Drops the blanks at the end. -/
def trimRight (text : List Char) : List Char := (text.reverse.dropWhile isBlank).reverse

/-- Drops the blanks at both ends. -/
def trim (text : List Char) : List Char := trimRight (trimLeft text)

/-- Drops the blanks at both ends of a string. -/
def trimmed (text : String) : String := String.ofList (trim text.toList)

/-- The pieces between the places where `sep` stands; there is always at least one. -/
def splitAt (sep : Char) : List Char → List (List Char)
  | [] => [[]]
  | c :: rest =>
    if c = sep then [] :: splitAt sep rest
    else match splitAt sep rest with
      | [] => [[c]]
      | piece :: pieces => (c :: piece) :: pieces

/-- Puts `sep` between the pieces. -/
def joinWith (sep : List Char) : List (List Char) → List Char
  | [] => []
  | [piece] => piece
  | piece :: pieces => piece ++ sep ++ joinWith sep pieces

/-- Cutting a text yields at least one piece. -/
theorem splitAt_ne_nil (sep : Char) (text : List Char) : splitAt sep text ≠ [] := by
  cases text with
  | nil => simp [splitAt]
  | cons c rest =>
    simp only [splitAt]
    split
    · simp
    · split <;> simp

/-- Joining what a cut produced gives the text back. -/
theorem joinWith_splitAt (sep : Char) (text : List Char) :
    joinWith [sep] (splitAt sep text) = text := by
  induction text with
  | nil => rfl
  | cons c rest ih =>
    simp only [splitAt]
    split
    · rename_i h
      cases hs : splitAt sep rest with
      | nil => exact absurd hs (splitAt_ne_nil sep rest)
      | cons p ps =>
        rw [hs] at ih
        rw [joinWith, ih, h]
        · rfl
        · simp
    · cases hs : splitAt sep rest with
      | nil => exact absurd hs (splitAt_ne_nil sep rest)
      | cons p ps =>
        rw [hs] at ih
        cases ps with
        | nil => simpa [joinWith] using ih
        | cons q qs => simpa [joinWith] using ih

end CodeHighlight.Text
