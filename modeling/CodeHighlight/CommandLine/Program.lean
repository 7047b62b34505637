import CodeHighlight.CommandLine.Files
import CodeHighlight.CommandLine.Invocation
import CodeHighlight.CommandLine.Notice
import CodeHighlight.Conversion
import CodeHighlight.Highlighter.Registries
import CodeHighlight.Text.Utf8

/-!
# The program

A run reads a Markdown file, converts it, and prints the markup or writes it to another file. It
ends with 0 if that worked, with 1 if it failed, and with 2 if the command line makes no sense.
-/

namespace CodeHighlight.CommandLine

/-- What a run prints. -/
inductive Output where
  | text (text : String)
  | help (topic : HelpTopic)
deriving Repr, DecidableEq

/-- What a run leaves behind beside files. -/
structure Outcome where
  exitCode : Nat := 0
  output : Output := .text ""
  notices : List Notice := []
deriving Repr

namespace HelpTopic

/-- The help on a topic. -/
def text : HelpTopic → String
  | .program => String.intercalate "\n" [
      "Usage: [OPTIONS] COMMAND [ARGS]...", "",
      "Highlights the code of a Markdown document in the browser.", "",
      "Options:",
      "  -v, --verbose  Tell more; may be repeated.",
      "  --debug        Show where failures came from.",
      "  --version      Show the version and exit.",
      "  --help         Show this message and exit.", "",
      "Commands:",
      "  convert  Convert a Markdown file to HTML.", ""]
  | .convert => String.intercalate "\n" [
      "Usage: convert [OPTIONS] INPUT", "",
      "Converts a Markdown file to HTML with highlighted code.", "",
      "Options:",
      "  -o, --output FILE                     Write to this file.",
      "  -t, --theme NAME                      Colours of the code.",
      "  --line-numbers / --no-line-numbers    Number every block.",
      "  --line-numbers-start N                First line number.",
      "  --help                                Show this message and exit.", ""]

end HelpTopic

/-- The text that is printed. -/
def Output.shown : Output → String
  | .text written => written
  | .help topic => topic.text

namespace Outcome

/-- The outcome of a command line that makes no sense; one without words is answered with help. -/
def misuse (fault : UsageFault) : Outcome :=
  match fault with
  | .nothing => { exitCode := 2, output := .help .program }
  | fault => { exitCode := 2, notices := [.message fault.message] }

/-- The outcome of a failure that ends the run. -/
def failed (state : ReportState) (notices : List Notice) (failure : Failure) : Outcome where
  exitCode := 1
  notices := notices ++ [
    if state.tracebacks then .traceback failure
    else state.message "error" failure.top.message (some failure)]

/-- The outcome of an input that cannot be converted. -/
def unconverted (state : ReportState) (notices : List Notice) (name : String) (failure : Failure) :
    Outcome where
  exitCode := 1
  notices := notices ++
    [state.message "error" ("Failed to convert '" ++ name ++ "'") (some failure)]

end Outcome

namespace ConvertRequest

/-- Failures that the input is to blame for. -/
def blamesInput : FaultKind → Bool
  | .undecodableText | .conversion | .connection | .system | .fileExists | .fileMissing
  | .isDirectory | .notDirectory | .accessDenied => true
  | _ => false

/-- The text of a file, in which every line break is a line feed. -/
def textOf (bytes : Except AccessFault (List UInt8)) : Except Failure String := do
  let bytes ← bytes.mapError AccessFault.failure
  let text ← (Text.Utf8.decode bytes).mapError fun fault =>
    .plain .undecodableText fault.message
  return String.ofList (Text.unifyBreaks text)

/-- Converts what was read from the input, with the steps of the run. -/
def convert (request : ConvertRequest) (bytes : Except AccessFault (List UInt8))
    (gallery : Theme.Gallery := .bundled) : Except Failure String × List Step :=
  match textOf bytes with
  | .error failure => (.error failure, [])
  | .ok source =>
    let highlighter := Highlighter.ofSettings 0 request.settings gallery
    let (done, _, steps) := highlighter.convertSource source { world := {} }
    (done.map Conversion.html, steps)

/-- The notices of the reports among the steps. -/
def notices (state : ReportState) (steps : List Step) : Except CountFault (List Notice) := do
  let told ← steps.mapM fun
    | .report diagnostic => state.notices state.tracebacks diagnostic
    | _ => .ok []
  return told.flatten

variable {m : Type → Type} [Monad m]

/-- What is wrong with the paths of a request, if anything is. -/
def pathFault? (files : FileAccess m) (input : Path) (request : ConvertRequest) :
    m (Option UsageFault) := do
  match ← files.kind? input.text with
  | none => return some (.inputAbsent request.input)
  | some .directory => return some (.inputDirectory request.input)
  | some .file =>
    match request.output with
    | none => return none
    | some output =>
      match ← files.kind? output with
      | some .directory => return some (.outputDirectory output)
      | _ => return none

/-- Prints the markup, or writes it to the output file. -/
def deliver (files : FileAccess m) (state : ReportState) (notices : List Notice) (html : String) :
    Option String → m Outcome
  | none => return { output := .text html, notices }
  | some output => do
    let target := Path.ofText output
    match ← files.writeAt target html with
    | .ok () => return { notices }
    | .error fault =>
      let message := "Failed to write HTML output to '" ++ target.text ++ "': "
      let origin := fault.failure
      return .failed state notices (.because .system (message ++ origin.top.message) origin)

/-- Carries out a request. -/
def run (files : FileAccess m) (state : ReportState) (request : ConvertRequest)
    (gallery : Theme.Gallery := .bundled) : m Outcome := do
  let input := Path.settle (← files.home) (Path.ofText request.input)
  match ← request.pathFault? files input with
  | some fault => return .misuse fault
  | none =>
    let (done, steps) := request.convert (← files.read input.text) gallery
    match notices state steps, done with
    | .error fault, _ => return .failed state [] fault.failure
    | .ok notices, .ok html => deliver files state notices html request.output
    | .ok notices, .error failure =>
      return if blamesInput failure.top.kind then .unconverted state notices input.name failure
        else .failed state notices failure

end ConvertRequest

/-- The state that the options of the program set, as the command finds it in its own context. -/
def stateOf (verbosity : Nat) (tracebacks : Bool) : ReportState :=
  let (contexts, program) := ({} : Contexts).add none
  let (contexts, _) := contexts.set (some program) (some verbosity) (some tracebacks)
  let (contexts, command) := contexts.add (some program)
  match contexts.get (some command) with
  | (contexts, .ok id) => contexts.state id
  | (_, .error _) => {}

/-- The command finds what the options set. -/
theorem stateOf_eq (verbosity : Nat) (tracebacks : Bool) :
    stateOf verbosity tracebacks = ⟨verbosity, tracebacks⟩ := by
  simp [stateOf, Contexts.add, Contexts.set, Contexts.get, Contexts.nearest?, Contexts.lineage,
    Contexts.carried?, Contexts.addState, Contexts.attach, Contexts.remember, Contexts.state,
    Contexts.updated, List.modify]

/-- Runs the program on the words of a command line, with the themes of a gallery. -/
def runWith {m : Type → Type} [Monad m] (gallery : Theme.Gallery) (files : FileAccess m)
    (words : List String) : m Outcome :=
  match Invocation.read words with
  | .error fault => return .misuse fault
  | .ok (.help topic) => return { output := .help topic }
  | .ok .version => return { output := .text (version ++ "\n") }
  | .ok (.convert verbosity tracebacks request) =>
    request.run files (stateOf verbosity tracebacks) gallery

/-- Runs the program with the themes of the library. -/
def run {m : Type → Type} [Monad m] (files : FileAccess m) (words : List String) : m Outcome :=
  runWith .bundled files words

end CodeHighlight.CommandLine
