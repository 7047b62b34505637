import CodeHighlight.Diagnostics
import CodeHighlight.Directives

/-!
# Traces of a run

The steps of a run in the order in which they happened: calls of the hook, the supplier and the
renderer, reports, and notes for the log.
-/

namespace CodeHighlight

/-- What a renderer is asked for. -/
structure RenderRequest where
  code : String
  language : String
  theme : String
  label : String
  directives : Directives
deriving Repr, DecidableEq

/-- One step of a run. -/
inductive Step where
  /-- The hook ran. -/
  | hook
  /-- A grammar was asked for. -/
  | fetch (language : String)
  /-- The supplier knows no grammar. -/
  | unknownLanguage (language : String)
  /-- The grammar of a language was registered. -/
  | register (language : String)
  /-- The renderer was called. -/
  | render (request : RenderRequest)
  /-- A block was replaced. -/
  | replaced (language : String) (index : Nat) (label : String)
  /-- Something was reported. -/
  | report (diagnostic : Diagnostic)
deriving Repr

namespace Step

/-- The log record that a step leaves, where it leaves one. -/
def record? : Step → Except CountFault (Option LogRecord)
  | .unknownLanguage language => .ok (some
      { logger := "fencelight.core.languages", level := .debug,
        message := "No bundled grammar for language " ++ Text.quotedString language })
  | .replaced language index label => .ok (some
      { logger := "fencelight.core.transform", level := .debug,
        message := "Replaced " ++ language ++ " code block at index " ++ toString index
          ++ " with " ++ label })
  | .report diagnostic => (diagnostic.record diagnosticsLogger).map some
  | _ => .ok none

end Step

end CodeHighlight
