import CodeHighlight.CommandLine.Option
import CodeHighlight.Settings
import CodeHighlight.Text.Numeral
import CodeHighlight.Theme.Gallery

/-!
# What a command line asks for

Options of the whole program stand before the command, those of the command behind it and mixed with
its argument. Asking for help or for the version wins over all else that the same words say; of an
option that is repeated, the last one counts.
-/

namespace CodeHighlight.CommandLine

/-- The version of the program. -/
def version : String := "0.1.0"

/-- What there is help on. -/
inductive HelpTopic where
  | program
  | convert
deriving Repr, DecidableEq

/-- A request to convert a file. -/
structure ConvertRequest where
  input : String
  output : Option String := none
  theme : String := ({} : Settings Unit).theme
  lineNumbers : LineNumbers := .unset
deriving Repr, DecidableEq

/-- What a command line asks for. -/
inductive Invocation where
  | help (topic : HelpTopic)
  | version
  | convert (verbosity : Nat) (tracebacks : Bool) (request : ConvertRequest)
deriving Repr, DecidableEq

/-- What is wrong with a command line. -/
inductive UsageFault where
  /-- There are no words at all. -/
  | nothing
  | option (fault : OptionFault)
  | commandMissing
  | commandUnknown (name : String)
  | inputMissing
  | tooMany (argument : String)
  | startUnreadable (text : String)
  | startNegative (start : Int)
  | themeUnknown (name : String)
  | inputAbsent (path : String)
  | inputDirectory (path : String)
  | outputDirectory (path : String)
deriving Repr, DecidableEq

/-- The wording of a fault. -/
def UsageFault.message : UsageFault → String
  | .nothing => "Nothing to do."
  | .option fault => fault.message
  | .commandMissing => "Missing command."
  | .commandUnknown name => "No such command '" ++ name ++ "'."
  | .inputMissing => "Missing argument 'INPUT'."
  | .tooMany argument => "Got unexpected extra argument (" ++ argument ++ ")"
  | .startUnreadable text => "'" ++ text ++ "' is not a valid integer."
  | .startNegative start => toString start ++ " is below 0."
  | .themeUnknown name => "Unknown theme '" ++ name ++ "'."
  | .inputAbsent path => "File '" ++ path ++ "' does not exist."
  | .inputDirectory path => "File '" ++ path ++ "' is a directory."
  | .outputDirectory path => "File '" ++ path ++ "' is a directory."

/-- Options of the program. -/
inductive ProgramOption where
  | verbose
  | debug
  | version
  | help
deriving Repr, DecidableEq

/-- Options of a conversion. -/
inductive ConvertOption where
  | output (path : String)
  | theme (name : String)
  | lineNumbers (on : Bool)
  | start (text : String)
  | help
deriving Repr, DecidableEq

namespace ProgramOption

/-- How the options of the program are written. -/
def rules : List (OptionRule ProgramOption) := [
  ⟨["--verbose", "-v"], .flag .verbose⟩,
  ⟨["--debug"], .flag .debug⟩,
  ⟨["--version"], .flag .version⟩,
  ⟨["--help"], .flag .help⟩]

/-- The request that an option makes on its own. -/
def request? : ProgramOption → Option Invocation
  | .version => some .version
  | .help => some (.help .program)
  | _ => none

end ProgramOption

namespace ConvertOption

/-- How the options of a conversion are written. -/
def rules : List (OptionRule ConvertOption) := [
  ⟨["--output", "-o"], .value .output⟩,
  ⟨["--theme", "-t"], .value .theme⟩,
  ⟨["--line-numbers"], .flag (.lineNumbers true)⟩,
  ⟨["--no-line-numbers"], .flag (.lineNumbers false)⟩,
  ⟨["--line-numbers-start"], .value .start⟩,
  ⟨["--help"], .flag .help⟩]

end ConvertOption

namespace ConvertRequest

/-- Reads the first line number. -/
def readStart (text : String) : Except UsageFault Int :=
  match Text.readInteger text with
  | .error _ => .error (.startUnreadable text)
  | .ok n => if n < 0 then .error (.startNegative n) else .ok n

/-- The default for line numbers; a first line number counts unless numbers are switched off. -/
def numbering : Option Bool → Option Int → LineNumbers
  | some false, _ => .flag false
  | _, some first => .start first
  | some true, none => .flag true
  | none, none => .unset

/-- The request that options and an argument make. -/
def ofOptions (options : List ConvertOption) (input : String) :
    Except UsageFault ConvertRequest := do
  let last {α : Type} (pick : ConvertOption → Option α) : Option α :=
    (options.filterMap pick).getLast?
  let start ← (last fun | .start text => some text | _ => none).mapM readStart
  let theme := (last fun | .theme name => some name | _ => none).getD ({} : Settings Unit).theme
  let on := last fun | .lineNumbers on => some on | _ => none
  let output := last fun | .output path => some path | _ => none
  if Theme.names.contains theme then
    return { input, output, theme, lineNumbers := numbering on start }
  else .error (.themeUnknown theme)

/-- The settings of the highlighter. -/
def settings {η : Type} (r : ConvertRequest) : Settings η where
  theme := r.theme
  lineNumbers := r.lineNumbers

end ConvertRequest

namespace Invocation

/-- The request that one of the options makes on its own; the first such option counts. -/
def early? (options : List ProgramOption) : Option Invocation :=
  options.findSome? ProgramOption.request?

/-- Reads the words behind the command. -/
def readConvert (verbosity : Nat) (tracebacks : Bool) (words : List String) :
    Except UsageFault Invocation := do
  let (options, arguments) ←
    (OptionRule.readWords ConvertOption.rules true words).mapError UsageFault.option
  if options.contains .help then return .help .convert
  match arguments with
  | [] => .error .inputMissing
  | [input] => return .convert verbosity tracebacks (← ConvertRequest.ofOptions options input)
  | _ :: extra :: _ => .error (.tooMany extra)

/-- Reads a command line. A word in the place of the command that looks like an option is read as
one, so that help and the version can still be asked for behind two hyphens. -/
def read (words : List String) : Except UsageFault Invocation := do
  if words.isEmpty then throw .nothing
  let (options, rest) ←
    (OptionRule.readWords ProgramOption.rules false words).mapError UsageFault.option
  if let some request := early? options then return request
  match rest with
  | [] => throw .commandMissing
  | "convert" :: words => readConvert (options.count .verbose) (options.contains .debug) words
  | command :: _ =>
    let (options, _) ←
      (OptionRule.readWords ProgramOption.rules false rest).mapError UsageFault.option
    match early? options with
    | some request => return request
    | none => throw (.commandUnknown command)

end Invocation

end CodeHighlight.CommandLine
