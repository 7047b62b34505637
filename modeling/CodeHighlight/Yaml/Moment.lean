import CodeHighlight.Yaml.Fault
import CodeHighlight.Yaml.Form

/-!
# Dates and times

A date is a day of the Gregorian calendar from the year 1 to the year 9999. A time adds the time of
day and perhaps the distance from universal time. Two times with a distance are the same if they are
the same instant.
-/

namespace CodeHighlight.Yaml

/-- A day. -/
structure Date where
  year : Nat
  month : Nat
  day : Nat
deriving Repr, DecidableEq

/-- A time on a day. -/
structure Time where
  date : Date
  hour : Nat
  minute : Nat
  second : Nat
  microsecond : Nat
  /-- Minutes ahead of universal time. -/
  offset : Option Int
deriving Repr, DecidableEq

/-- A number with at least so many digits. -/
def padded (width n : Nat) : String :=
  let digits := toString n
  String.ofList (List.replicate (width - digits.length) '0') ++ digits

namespace Date

/-- The year has a day more. -/
def isLeap (year : Nat) : Bool := year % 4 = 0 && (year % 100 ≠ 0 || year % 400 = 0)

/-- Number of days in a month. -/
def monthLength (year month : Nat) : Nat :=
  if month = 2 then (if isLeap year then 29 else 28)
  else if month ∈ [4, 6, 9, 11] then 30
  else 31

/-- The day with the given numbers. -/
def of (year month day : Nat) : Except CalendarFault Date :=
  if year < 1 ∨ 9999 < year then .error (.year year)
  else if month < 1 ∨ 12 < month then .error .month
  else if day < 1 ∨ monthLength year month < day then .error .day
  else .ok ⟨year, month, day⟩

/-- The day as text. -/
def text (d : Date) : String := padded 4 d.year ++ "-" ++ padded 2 d.month ++ "-" ++ padded 2 d.day

/-- Number of days from the first day of the calendar on. -/
def ordinal (d : Date) : Nat :=
  let past := d.year - 1
  let before := (List.range (d.month - 1)).foldl (fun n m => n + monthLength d.year (m + 1)) 0
  past * 365 + past / 4 - past / 100 + past / 400 + before + d.day

end Date

namespace Time

/-- Minutes in a day. -/
def dayMinutes : Int := 1440

/-- The time with the given numbers. -/
def of (year month day hour minute second microsecond : Nat) (offset : Option Int) :
    Except CalendarFault Time := do
  if let some minutes := offset then
    if dayMinutes ≤ minutes.natAbs then throw (.offset minutes)
  let date ← Date.of year month day
  if 24 ≤ hour then throw .hour
  if 60 ≤ minute then throw .minute
  if 60 ≤ second then throw .second
  return ⟨date, hour, minute, second, microsecond, offset⟩

/-- A distance from universal time as text. -/
def offsetText (minutes : Int) : String :=
  (if minutes < 0 then "-" else "+") ++ padded 2 (minutes.natAbs / 60) ++ ":" ++
    padded 2 (minutes.natAbs % 60)

/-- The time as text. -/
def text (t : Time) : String :=
  t.date.text ++ "T" ++ padded 2 t.hour ++ ":" ++ padded 2 t.minute ++ ":" ++ padded 2 t.second ++
    (if t.microsecond = 0 then "" else "." ++ padded 6 t.microsecond) ++ t.offset.elim "" offsetText

/-- Microseconds from the beginning of the calendar on, in universal time if the distance is
known. -/
def instant (t : Time) : Int :=
  let minutes : Int := t.date.ordinal * 1440 + t.hour * 60 + t.minute - t.offset.getD 0
  (minutes * 60 + t.second) * 1000000 + t.microsecond

/-- The same instant, or the same numbers where no distance is known. -/
def same (a b : Time) : Bool := a.offset.isSome == b.offset.isSome && a.instant == b.instant

end Time

/-- A date, or a time on it. -/
inductive Moment where
  | date (date : Date)
  | time (time : Time)
deriving Repr, DecidableEq

namespace Moment

/-- The number that ASCII digits write. -/
def number (digits : List Char) : Nat := digits.foldl (fun n c => 10 * n + (c.toNat - 48)) 0

/-- The first six digits of a fraction of a second, filled up with zeros. -/
def microseconds (digits : List Char) : Nat :=
  number ((digits ++ List.replicate 6 '0').take 6)

/-- Reads a date or a time. -/
def read (text : List Char) : Except Fault Moment :=
  let start := Place.start text
  match Form.moment.matchAt? start with
  | none => .error .notTime
  | some stop =>
    let part? (p : Form.Part) : Option (List Char) := start.marked? stop p.mark
    let value (p : Form.Part) : Nat := number ((part? p).getD [])
    if (part? .hour).isNone then
      ((Date.of (value .year) (value .month) (value .day)).map .date).mapError .calendar
    else
      let size : Int := value .offsetHour * 60 + value .offsetMinute
      let offset : Option Int := match part? .offsetSign with
        | some sign => some (if sign = ['-'] then -size else size)
        | none => (part? .universal).map fun _ => 0
      ((Time.of (value .year) (value .month) (value .day) (value .hour) (value .minute)
        (value .second) (microseconds ((part? .fraction).getD [])) offset).map .time).mapError
        .calendar

end Moment

end CodeHighlight.Yaml
