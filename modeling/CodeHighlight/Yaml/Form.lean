import CodeHighlight.Pattern

/-!
# Forms of plain scalars

What numbers, truth values and times look like. Parts of a time are marked, so that they can be read
from a match.
-/

namespace CodeHighlight.Yaml.Form

open Pattern

/-- A sign or none. -/
def sign : Pattern := maybe (among "+-")

/-- An ASCII digit. -/
def figure : Pattern := one Char.isDigit

/-- ASCII digits and underscores. -/
def figures : Pattern := many (one fun c => c.isDigit || c = '_')

/-- Minutes or seconds behind a colon. -/
def sixtieths : Pattern := char ':' ++ maybe (among "012345") ++ figure

/-- A number that does not begin with zero. -/
def leading : Pattern := among "123456789" ++ figures

/-- A whole number: in one of four bases, or counted in sixties. -/
def int : Pattern := choice [
  sign ++ text "0b" ++ many1 (among "01_"),
  sign ++ char '0' ++ many1 (among "01234567_"),
  sign ++ (char '0' <|> leading),
  sign ++ text "0x" ++ many1 (char '_' <|> hexDigit),
  sign ++ leading ++ many1 sixtieths]

/-- A power of ten; its sign is written. -/
def exponent : Pattern := maybe (among "eE" ++ among "+-" ++ many1 figure)

/-- A floating-point number: with a point, or counted in sixties, or none that is finite. -/
def float : Pattern := choice [
  sign ++ figure ++ figures ++ char '.' ++ figures ++ exponent,
  char '.' ++ figure ++ figures ++ exponent,
  sign ++ figure ++ figures ++ many1 sixtieths ++ char '.' ++ figures,
  sign ++ char '.' ++ choice [text "inf", text "Inf", text "INF"],
  char '.' ++ choice [text "nan", text "NaN", text "NAN"]]

/-- A truth value. -/
def bool : Pattern :=
  choice (["yes", "Yes", "YES", "no", "No", "NO", "true", "True", "TRUE", "false", "False", "FALSE",
    "on", "On", "ON", "off", "Off", "OFF"].map text)

/-- No value. -/
def null : Pattern := choice (["~", "null", "Null", "NULL"].map text)

/-- The marked parts of a time. -/
inductive Part where
  | year
  | month
  | day
  | hour
  | minute
  | second
  | fraction
  | universal
  | offsetSign
  | offsetHour
  | offsetMinute

/-- The number of a part. -/
def Part.mark : Part → Nat
  | .year => 0
  | .month => 1
  | .day => 2
  | .hour => 3
  | .minute => 4
  | .second => 5
  | .fraction => 6
  | .universal => 7
  | .offsetSign => 8
  | .offsetHour => 9
  | .offsetMinute => 10

/-- So many ASCII digits that are a part of a time. -/
def part (p : Part) (least most : Nat) : Pattern := .marked p.mark (between figure least most)

/-- A day; the month and its day have at least so many digits. -/
def day (least : Nat) : Pattern :=
  part .year 4 4 ++ char '-' ++ part .month least 2 ++ char '-' ++ part .day least 2

/-- The distance from universal time. -/
def offset : Pattern :=
  .marked Part.universal.mark (char 'Z') <|>
    (.marked Part.offsetSign.mark (among "+-") ++ part .offsetHour 1 2 ++
      maybe (char ':' ++ part .offsetMinute 2 2))

/-- A time of day behind a day. -/
def clock : Pattern :=
  (among "Tt" <|> many1 (among " \t")) ++ part .hour 1 2 ++ char ':' ++ part .minute 2 2 ++
    char ':' ++ part .second 2 2 ++
    maybe (char '.' ++ .marked Part.fraction.mark (many figure)) ++
    maybe (many (among " \t") ++ offset)

/-- A day of ten characters, or a time of day on any day. -/
def timestamp : Pattern := day 2 ++ textEnd <|> day 1 ++ clock

/-- A day with or without a time of day. -/
def moment : Pattern := day 1 ++ maybe clock ++ textEnd

end CodeHighlight.Yaml.Form
