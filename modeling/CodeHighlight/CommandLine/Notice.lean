import CodeHighlight.CommandLine.Console
import CodeHighlight.CommandLine.Context
import CodeHighlight.Diagnostics

/-!
# Notices

What a command tells beside its output. A message names a failure in one line; how much follows it
depends on the verbosity: the failure's own words and kind, then the faults behind it. A traceback
tells the faults from the innermost to the outermost.
-/

namespace CodeHighlight.CommandLine

/-- Something told beside the output. -/
inductive Notice where
  | message (text : String)
  | traceback (failure : Failure)
deriving Repr

/-- Whether one text stands somewhere in another. -/
def holds (text part : List Char) : Bool :=
  part.isPrefixOf text || match text with
    | [] => false
    | _ :: rest => holds rest part

/-- A fault with its message in one line. -/
def faultLine (fault : Fault) : String :=
  if fault.message = "" then fault.kind.name else fault.kind.name ++ ": " ++ fault.message

/-- What stands between a fault and the one behind it. -/
def linkLine (fault : Fault) : String :=
  if fault.cause.isSome then
    "The above exception was the direct cause of the following exception:"
  else "During handling of the above exception, another exception occurred:"

/-- The account of a chain of faults whose outermost comes first. -/
def account : List Fault → String
  | [] => ""
  | [fault] => faultLine fault
  | fault :: behind => account behind ++ "\n\n" ++ linkLine fault ++ "\n\n" ++ faultLine fault

/-- The text of a notice. -/
def Notice.text : Notice → String
  | .message text => text
  | .traceback failure => account failure.chain

/-- A notice as the console shows it. -/
def Notice.shown (notice : Notice) : String := Console.shown notice.text

namespace ReportState

/-- The words of a failure, unless the message holds them already. -/
def ownWords (message : String) (failure : Failure) : List String :=
  let words := Text.trim failure.top.message.toList
  if words.isEmpty || holds message.toList words then [] else [String.ofList words]

/-- The faults behind a failure, one in a line. -/
def causeLines (failure : Failure) : List String :=
  match failure.origins with
  | [] => []
  | origins => "caused by:" :: origins.map fun fault =>
      "  " ++ fault.kind.name ++ ": " ++ fault.message

/-- The lines that explain the failure behind a message. -/
def explanation (state : ReportState) (message : String) (failure : Failure) : List String :=
  if state.verbosity < 1 then []
  else
    ownWords message failure ++ ["type: " ++ failure.top.kind.name] ++
      if state.verbosity < 2 then [] else causeLines failure

/-- A message under a heading, with what explains it. -/
def message (state : ReportState) (heading text : String) (failure : Option Failure) : Notice :=
  .message (String.intercalate "\n"
    ((heading ++ ": " ++ text) :: failure.elim [] (state.explanation text)))

/-- The notices of a diagnostic. An error shows its traceback where `tracebacks` says so; an event
is shown by its summary, if verbosity allows. -/
def notices (state : ReportState) (tracebacks : Bool) : Diagnostic → Except CountFault (List Notice)
  | .warning text failure => .ok [state.message "warning" text failure]
  | .error text failure =>
    .ok (state.message "error" text failure ::
      if tracebacks then failure.toList.map .traceback else [])
  | .event name payload => do
    match ← Diagnostic.summary name payload with
    | none => return []
    | some summary => return if 1 ≤ state.verbosity then [.message summary] else []

end ReportState

end CodeHighlight.CommandLine
