import CodeHighlight.Decimal.Whole
import CodeHighlight.Fault
import CodeHighlight.Json
import CodeHighlight.Text.Numeral

/-!
# Diagnostics

What a run reports: warnings and errors with the failure behind them, and named events with data.
Two events have a summary in words; the counts in them are read from whatever value they carry.
-/

namespace CodeHighlight

/-- A report of a run. -/
inductive Diagnostic where
  | warning (message : String) (failure : Option Failure)
  | error (message : String) (failure : Option Failure)
  | event (name : String) (payload : List (String × Json))
deriving Repr

/-- Why a count is not read. -/
inductive CountFault where
  /-- A text that is no number. -/
  | numeral (fault : Text.NumeralFault)
  /-- A value that is neither text nor number. -/
  | notNumber
  /-- An infinite number. -/
  | infinite
  /-- Not a number at all. -/
  | notANumber
deriving Repr, DecidableEq

/-- The failure that a fault raises. -/
def CountFault.failure : CountFault → Failure
  | .numeral fault => .plain .badValue fault.message
  | .notNumber =>
    .plain .badType "int() argument must be a string, a bytes-like object or a real number"
  | .infinite => .plain .sizeOverflow "cannot convert float infinity to integer"
  | .notANumber => .plain .badValue "cannot convert float NaN to integer"

namespace Diagnostic

/-- The event that a grammar became available. -/
def languageLoaded (language : String) : Diagnostic :=
  .event "language_loaded" [("language", .str language)]

/-- The event that ends a run. -/
def blocksHighlighted (converted failed : Nat) : Diagnostic :=
  .event "code_blocks_highlighted" [("converted", .int converted), ("failed", .int failed)]

/-- Reads a count; a missing or empty value counts as zero. -/
def readCount (value : Json) : Except CountFault Int :=
  if value.isNothing then .ok 0
  else match value with
    | .bool b => .ok (if b then 1 else 0)
    | .int n => .ok n
    | .real x =>
      match Decimal.truncate? x with
      | some n => .ok n
      | none => if x == x then .error .infinite else .error .notANumber
    | .str s => (Text.readInteger s).mapError .numeral
    | _ => .error .notNumber

/-- The summary of the event that ends a run; there is none when nothing was counted. -/
def countSummary (converted failed : Int) : Option String :=
  if converted = 0 ∧ failed = 0 then none
  else
    let noun := if converted = 1 then "block" else "blocks"
    let rest := if failed = 0 then "" else " (" ++ toString failed ++ " left unconverted)"
    some ("Highlighted " ++ toString converted ++ " code " ++ noun ++ rest)

/-- The summary of an event in words, where it has one. -/
def summary (name : String) (payload : List (String × Json)) : Except CountFault (Option String) :=
  let value (key : String) : Json := (payload.reverse.lookup key).getD .null
  if name = "language_loaded" then
    let language := value "language"
    .ok (some ("Loaded grammar: " ++ if language.isNothing then "<unknown>" else language.inline))
  else if name = "code_blocks_highlighted" then do
    let converted ← readCount (value "converted")
    let failed ← readCount (value "failed")
    return countSummary converted failed
  else .ok none

end Diagnostic

/-- How much a log record matters. -/
inductive LogLevel where
  | debug
  | info
  | warning
  | error
deriving Repr, DecidableEq

/-- The name of a level. -/
def LogLevel.name : LogLevel → String
  | .debug => "DEBUG"
  | .info => "INFO"
  | .warning => "WARNING"
  | .error => "ERROR"

/-- A record of a log. -/
structure LogRecord where
  logger : String
  level : LogLevel
  message : String
  failure : Option Failure := none
deriving Repr

/-- The logger of diagnostics that have no logger of their own. -/
def diagnosticsLogger : String := "fencelight.core.diagnostics"

/-- The record of a diagnostic; an event without a summary shows its data at the lowest level. -/
def Diagnostic.record (logger : String) : Diagnostic → Except CountFault LogRecord
  | .warning message failure => .ok ⟨logger, .warning, message, failure⟩
  | .error message failure => .ok ⟨logger, .error, message, failure⟩
  | .event name payload => do
    match ← Diagnostic.summary name payload with
    | some text => return ⟨logger, .info, text, none⟩
    | none =>
      let data := String.ofList (Json.obj payload).literal
      return ⟨logger, .debug, "diagnostic event " ++ name ++ ": " ++ data, none⟩

end CodeHighlight
