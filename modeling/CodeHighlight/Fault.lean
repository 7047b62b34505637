import CodeHighlight.Text.LineBreak

/-!
# Faults and what led to them

A fault has a kind and a message, and may name the fault that caused it and the fault during whose
handling it arose. The links may form a cycle. A failure is a store of faults with the one that was
raised; its chain follows the cause of each fault, or else its context, and visits none twice.
-/

namespace CodeHighlight

/-- Kinds of faults. -/
inductive FaultKind where
  | highlight
  | grammarLoad
  | render
  | invalidNode
  | conversion
  | connection
  | runtime
  | recursion
  | badValue
  | badType
  | missingKey
  | missingMember
  | badIndex
  | sizeOverflow
  | undecodableText
  | system
  | fileExists
  | fileMissing
  | isDirectory
  | notDirectory
  | accessDenied
deriving Repr, DecidableEq

/-- The name under which a kind is reported. -/
def FaultKind.name : FaultKind → String
  | .highlight => "HighlightError"
  | .grammarLoad => "GrammarLoadError"
  | .render => "RenderError"
  | .invalidNode => "InvalidNodeError"
  | .conversion => "MarkdownConversionError"
  | .connection => "ConnectionError"
  | .runtime => "RuntimeError"
  | .recursion => "RecursionError"
  | .badValue => "ValueError"
  | .badType => "TypeError"
  | .missingKey => "KeyError"
  | .missingMember => "AttributeError"
  | .badIndex => "IndexError"
  | .sizeOverflow => "OverflowError"
  | .undecodableText => "UnicodeDecodeError"
  | .system => "OSError"
  | .fileExists => "FileExistsError"
  | .fileMissing => "FileNotFoundError"
  | .isDirectory => "IsADirectoryError"
  | .notDirectory => "NotADirectoryError"
  | .accessDenied => "PermissionError"

/-- One fault; links are places in the store that holds it. -/
structure Fault where
  kind : FaultKind
  message : String
  cause : Option Nat := none
  context : Option Nat := none
deriving Repr, DecidableEq

/-- The fault that explains another one: its cause, or else its context. -/
def Fault.origin (f : Fault) : Option Nat := f.cause.or f.context

/-- A store of faults and the place of the one that was raised. -/
structure Failure where
  faults : List Fault
  raised : Nat := 0
deriving Repr, DecidableEq

namespace Failure

/-- A failure that nothing explains. -/
def plain (kind : FaultKind) (message : String) : Failure := ⟨[{ kind, message }], 0⟩

/-- A fault that was raised because of a failure. -/
def because (kind : FaultKind) (message : String) (origin : Failure) : Failure :=
  ⟨origin.faults ++ [{ kind, message, cause := some origin.raised }], origin.faults.length⟩

/-- The fault that was raised. -/
def top (f : Failure) : Fault :=
  match f.faults[f.raised]? with
  | some fault => fault
  | none => ⟨.runtime, "", none, none⟩

/-- The places of a store that are not visited yet. -/
def unvisited (faults : List Fault) (visited : List Nat) : List Nat :=
  (List.range faults.length).filter (· ∉ visited)

/-- A visit leaves fewer places unvisited. -/
theorem length_unvisited_cons_lt (faults : List Fault) (visited : List Nat) (place : Nat)
    (h : place < faults.length ∧ place ∉ visited) :
    (unvisited faults (place :: visited)).length < (unvisited faults visited).length := by
  have hsplit : unvisited faults (place :: visited) =
      (unvisited faults visited).filter (· ≠ place) := by
    rw [unvisited, unvisited, List.filter_filter]
    apply List.filter_congr
    intro q _
    simp [not_or]
  rw [hsplit]
  exact List.length_filter_lt_length_iff_exists.mpr ⟨place, by simp [unvisited, h]⟩

/-- Follows the origins from a place on until they end or return to a visited place. -/
def follow (faults : List Fault) (visited : List Nat) : Option Nat → List Nat
  | none => []
  | some place =>
    if h : place < faults.length ∧ place ∉ visited then
      place :: follow faults (place :: visited) (getElem faults place h.1).origin
    else []
termination_by (unvisited faults visited).length
decreasing_by exact length_unvisited_cons_lt faults visited place h

/-- The places of the chain, the raised fault first. -/
def chainPlaces (f : Failure) : List Nat := follow f.faults [] (some f.raised)

/-- The raised fault and those behind it. -/
def chain (f : Failure) : List Fault := f.chainPlaces.filterMap (f.faults[·]?)

/-- The places of the faults behind the raised one. The raised fault is not marked as visited, so a
cycle that returns to it lists it at its end. -/
def originPlaces (f : Failure) : List Nat := follow f.faults [] f.top.origin

/-- The faults behind the raised one. -/
def origins (f : Failure) : List Fault := f.originPlaces.filterMap (f.faults[·]?)

/-- The first line of a message that holds more than blanks. -/
def firstLine? (message : String) : Option String :=
  match Text.lines (Text.trim message.toList) with
  | [] => none
  | line :: _ =>
    match Text.trim line with
    | [] => none
    | text => some (String.ofList text)

/-- The first lines of the messages along the chain. -/
def messages (f : Failure) : List String := f.chain.filterMap fun fault => firstLine? fault.message

/-- The message of the fault furthest behind. -/
def hint? (f : Failure) : Option String := f.messages.getLast?

end Failure

end CodeHighlight
