import CodeHighlight.Fault
import CodeHighlight.Text.Numeral

/-!
# Why data is not loaded

A text that is no data at all is malformed. Some texts name a kind of value that they do not write,
such as a day that no month has; each of these has a cause of its own.
-/

namespace CodeHighlight.Yaml

/-- Why a date or a time of day does not exist. -/
inductive CalendarFault where
  | year (number : Nat)
  | month
  | day
  | hour
  | minute
  | second
  /-- The distance from universal time, in minutes, is a day or more. -/
  | offset (minutes : Int)
deriving Repr, DecidableEq

namespace CalendarFault

/-- A span of time as it is written in a message: days, and seconds unless there are none. -/
def span (minutes : Int) : String :=
  let days := minutes / 1440
  let seconds := minutes % 1440 * 60
  "datetime.timedelta(days=" ++ toString days
    ++ (if seconds = 0 then "" else ", seconds=" ++ toString seconds) ++ ")"

/-- The wording of a fault. -/
def message : CalendarFault → String
  | .year number => "year " ++ toString number ++ " is out of range"
  | .month => "month must be in 1..12"
  | .day => "day is out of range for month"
  | .hour => "hour must be in 0..23"
  | .minute => "minute must be in 0..59"
  | .second => "second must be in 0..59"
  | .offset minutes =>
    "offset must be a timedelta strictly between -timedelta(hours=24) and timedelta(hours=24), not "
      ++ span minutes ++ "."

end CalendarFault

/-- Why a text gives no data. -/
inductive Fault where
  /-- The text is not of the form that data has. -/
  | malformed
  | numeral (fault : Text.NumeralFault)
  /-- A text stands for a floating-point number and is none. -/
  | notFloat (text : String)
  /-- A place of a floating-point number counts more than such numbers reach. -/
  | hugePlace
  /-- A number without any character. -/
  | emptyNumber
  /-- A text stands for a truth value and is none. -/
  | notTruth (text : String)
  | calendar (fault : CalendarFault)
  /-- A text stands for a time and is none. -/
  | notTime
  /-- A mapping stands for a time. -/
  | mappingAsTime
  /-- A mapping stands for characters that it says to be its own. -/
  | endless
  /-- An escape for a character beyond all characters. -/
  | noCharacter
  /-- An escape for a character whose number is beyond 31 bits. -/
  | hugeCharacter
deriving Repr, DecidableEq

/-- The failure that a fault raises; a malformed text raises none. -/
def Fault.failure? : Fault → Option Failure
  | .malformed => none
  | .numeral fault => some (.plain .badValue fault.message)
  | .notFloat text =>
    some (.plain .badValue ("could not convert string to float: " ++ Text.quotedString text))
  | .hugePlace => some (.plain .sizeOverflow "int too large to convert to float")
  | .emptyNumber => some (.plain .badIndex "string index out of range")
  | .notTruth text => some (.plain .missingKey (Text.quotedString text))
  | .calendar fault => some (.plain .badValue fault.message)
  | .notTime => some (.plain .missingMember "'NoneType' object has no attribute 'groupdict'")
  | .mappingAsTime => some (.plain .badType "expected string or bytes-like object, got 'list'")
  | .endless => some (.plain .recursion "maximum recursion depth exceeded")
  | .noCharacter => some (.plain .badValue "chr() arg not in range(0x110000)")
  | .hugeCharacter => some (.plain .sizeOverflow "Python int too large to convert to C int")

end CodeHighlight.Yaml
