/-!
# Options on a command line

An option has one or more names. A long name begins with two hyphens, and its value may follow an
equals sign; short names of one letter may share a hyphen, and the rest of the word is the value of
the first that takes one. A value that is not in the word is the whole next word. Two hyphens alone
end the options.
-/

namespace CodeHighlight.CommandLine

/-- What an option stands for. -/
inductive OptionForm (α : Type) where
  | flag (meaning : α)
  | value (meaning : String → α)

/-- An option with its names, hyphens included. -/
structure OptionRule (α : Type) where
  names : List String
  form : OptionForm α

/-- What is wrong with an option. -/
inductive OptionFault where
  | unknown (name : String)
  | valueMissing (name : String)
  | valueRefused (name : String)
deriving Repr, DecidableEq

/-- The wording of a fault. -/
def OptionFault.message : OptionFault → String
  | .unknown name => "No such option: " ++ name
  | .valueMissing name => "Option '" ++ name ++ "' requires an argument."
  | .valueRefused name => "Option '" ++ name ++ "' does not take a value."

/-- What a word says: options that are complete, perhaps with one that waits for its value. -/
structure WordReading (α : Type) where
  found : List α := []
  waiting : Option (String × (String → α)) := none

namespace OptionRule

variable {α : Type}

/-- The option with a name. -/
def find? (rules : List (OptionRule α)) (name : String) : Option (OptionForm α) :=
  (rules.find? fun rule => rule.names.contains name).map OptionRule.form

/-- A word that names options. -/
def isOption (word : List Char) : Bool :=
  match word with
  | '-' :: _ :: _ => true
  | _ => false

/-- Reads short names that share a hyphen. -/
def readShort (rules : List (OptionRule α)) : List Char → Except OptionFault (WordReading α)
  | [] => .ok {}
  | letter :: rest =>
    let name := String.ofList ['-', letter]
    match find? rules name with
    | none => .error (.unknown name)
    | some (.flag meaning) =>
      (readShort rules rest).map fun reading => { reading with found := meaning :: reading.found }
    | some (.value meaning) =>
      .ok (if rest.isEmpty then { waiting := some (name, meaning) }
        else { found := [meaning (String.ofList rest)] })

/-- Reads a long name, with its value if an equals sign is there. -/
def readLong (rules : List (OptionRule α)) (word : List Char) :
    Except OptionFault (WordReading α) :=
  let name := String.ofList (word.takeWhile (· ≠ '='))
  match find? rules name, word.dropWhile (· ≠ '=') with
  | none, _ => .error (.unknown name)
  | some (.flag meaning), [] => .ok { found := [meaning] }
  | some (.flag _), _ :: _ => .error (.valueRefused name)
  | some (.value meaning), [] => .ok { waiting := some (name, meaning) }
  | some (.value meaning), _ :: value => .ok { found := [meaning (String.ofList value)] }

/-- Reads a word that names options. -/
def readWord (rules : List (OptionRule α)) (word : List Char) :
    Except OptionFault (WordReading α) :=
  match word with
  | '-' :: '-' :: _ => readLong rules word
  | _ => readShort rules word.tail

/-- Reads words into options and arguments, each in order. Unless they may be mixed, the first
argument ends the options. -/
def readWords (rules : List (OptionRule α)) (mixed : Bool) :
    List String → Except OptionFault (List α × List String)
  | [] => .ok ([], [])
  | word :: rest =>
    if word = "--" then .ok ([], rest)
    else if isOption word.toList then do
      let reading ← readWord rules word.toList
      match reading.waiting, rest with
      | none, rest =>
        let (options, arguments) ← readWords rules mixed rest
        return (reading.found ++ options, arguments)
      | some (name, _), [] => .error (.valueMissing name)
      | some (_, meaning), value :: rest =>
        let (options, arguments) ← readWords rules mixed rest
        return (reading.found ++ meaning value :: options, arguments)
    else if mixed then do
      let (options, arguments) ← readWords rules mixed rest
      return (options, word :: arguments)
    else .ok ([], word :: rest)

end OptionRule

end CodeHighlight.CommandLine
