import CodeHighlight.Decimal.Whole
import CodeHighlight.Directives
import CodeHighlight.Json

/-!
# Settings of a highlighter

The caller chooses a theme, whether lines are numbered by default, and a hook that runs before each
document. Settings arrive as named values and are checked field by field; every fault is reported,
not only the first.
-/

namespace CodeHighlight

/-- The default for line numbers. -/
inductive LineNumbers where
  /-- Nothing is said. -/
  | unset
  /-- Numbered from one, or not numbered. -/
  | flag (on : Bool)
  /-- Numbered from a given line on. -/
  | start (first : Int)
deriving Repr, DecidableEq

/-- Settings of a highlighter whose hooks are values of `η`. -/
structure Settings (η : Type) where
  theme : String := "monokai"
  lineNumbers : LineNumbers := .unset
  hook : Option η := none

/-- What is wrong with a value. -/
inductive SettingProblem where
  /-- Text was wanted. -/
  | notText
  /-- A text or number that stands for no truth value. -/
  | unreadableFlag
  /-- A value of a kind that stands for no truth value. -/
  | notFlag
  /-- A group of named values was wanted. -/
  | notGroup
  /-- A text that is no whole number. -/
  | unreadableNumber
  /-- A text with more digits than are read. -/
  | numberTooLong
  /-- A number with a fraction. -/
  | fraction
  /-- A value of a kind that stands for no whole number. -/
  | notNumber
  /-- A hook was wanted. -/
  | notHook
  /-- No such setting. -/
  | unknown
deriving Repr, DecidableEq

/-- The code under which a problem is reported. -/
def SettingProblem.code : SettingProblem → String
  | .notText => "string_type"
  | .unreadableFlag => "bool_parsing"
  | .notFlag => "bool_type"
  | .notGroup => "model_type"
  | .unreadableNumber => "int_parsing"
  | .numberTooLong => "int_parsing_size"
  | .fraction => "int_from_float"
  | .notNumber => "int_type"
  | .notHook => "callable_type"
  | .unknown => "extra_forbidden"

/-- A problem and the path of names to the value that has it. -/
structure SettingFault where
  path : List String
  problem : SettingProblem
deriving Repr, DecidableEq

/-- What a value is read as, for each kind of value that a setting may want. -/
structure Reading (η : Type) where
  /-- Whether it says that there is none. -/
  isNull : Bool := false
  text : Except SettingProblem String := .error .notText
  flag : Except SettingProblem Bool := .error .notFlag
  /-- The first line number that it names as a group. -/
  start : Except (List SettingFault) Int := .error [⟨[], .notGroup⟩]
  hook : Except SettingProblem η := .error .notHook

/-- A value before it is checked. -/
inductive Setting (η : Type) where
  | data (value : Json)
  /-- A group that has been checked already, with its first line number. -/
  | numbering (first : Int)
  | hook (value : η)
  /-- A value of another kind, with what it is read as. -/
  | other (reading : Reading η)

namespace Settings

variable {η : Type}

/-- The directives of a block that says nothing itself. -/
def defaults (s : Settings η) : Directives :=
  match s.lineNumbers with
  | .unset => {}
  | .flag on => if on then { numbering := some 1 } else {}
  | .start first => { numbering := some first }

/-- Texts that stand for true. -/
def trueWords : List String := ["1", "on", "t", "true", "y", "yes"]

/-- Texts that stand for false. -/
def falseWords : List String := ["0", "off", "f", "false", "n", "no"]

/-- Reads a truth value. -/
def readFlag : Json → Except SettingProblem Bool
  | .bool b => .ok b
  | .int n => if n = 0 then .ok false else if n = 1 then .ok true else .error .unreadableFlag
  | .real x => if x == 0.0 then .ok false else if x == 1.0 then .ok true else .error .notFlag
  | .str s =>
    let word := s.map Char.toLower
    if trueWords.contains word then .ok true
    else if falseWords.contains word then .ok false
    else .error .unreadableFlag
  | _ => .error .notFlag

/-- ASCII digits with single underscores between them. -/
def asciiDigits? : List Char → Option (List Char)
  | [] => none
  | [c] => if c.isDigit then some [c] else none
  | c :: '_' :: rest => if c.isDigit then (asciiDigits? rest).map (c :: ·) else none
  | c :: d :: rest => if c.isDigit then (asciiDigits? (d :: rest)).map (c :: ·) else none

/-- A blank that is not one of the information separators. -/
def isPadding (c : Char) : Bool := Text.isBlank c && !(0x1C ≤ c.toNat && c.toNat ≤ 0x1F)

/-- Drops padding at both ends. -/
def dropPadding (text : List Char) : List Char :=
  ((text.dropWhile isPadding).reverse.dropWhile isPadding).reverse

/-- Drops a fraction that is all zeros. -/
def dropZeroFraction (text : List Char) : List Char :=
  match text.dropWhile (· ≠ '.') with
  | '.' :: zeros => if !zeros.isEmpty && zeros.all (· = '0') then text.takeWhile (· ≠ '.') else text
  | _ => text

/-- Reads a whole number from a text. -/
def readNumberText (text : String) : Except SettingProblem Int :=
  let (negative, body) := match dropPadding text.toList with
    | '-' :: rest => (true, rest)
    | '+' :: rest => (false, rest)
    | rest => (false, rest)
  match asciiDigits? (dropZeroFraction body) with
  | none => .error .unreadableNumber
  | some digits =>
    match Text.readNumeral? digits with
    | none => .error .numberTooLong
    | some n => .ok (if negative then -(n : Int) else n)

/-- Reads a whole number. -/
def readNumber : Json → Except SettingProblem Int
  | .bool b => .ok (if b then 1 else 0)
  | .int n => .ok n
  | .real x => match Decimal.whole? x with
    | some n => .ok n
    | none => .error .fraction
  | .str s => readNumberText s
  | _ => .error .notNumber

/-- Reads the group that names the first line number. -/
def readStart : Json → Except (List SettingFault) Int
  | .obj members =>
    let start : Except SettingProblem Int := match members.lookup "start" with
      | none => .ok 1
      | some value => readNumber value
    let unknown := (members.filter fun m => m.1 ≠ "start").map fun m =>
      (⟨[m.1], .unknown⟩ : SettingFault)
    match start, unknown with
    | .ok n, [] => .ok n
    | .ok _, faults => .error faults
    | .error problem, faults => .error (⟨["start"], problem⟩ :: faults)
  | _ => .error [⟨[], .notGroup⟩]

/-- Reads a text. -/
def readText : Json → Except SettingProblem String
  | .str s => .ok s
  | _ => .error .notText

/-- What a value is read as. -/
def readingOf : Setting η → Reading η
  | .data .null => { isNull := true }
  | .data value => { text := readText value, flag := readFlag value, start := readStart value }
  | .numbering first => { start := .ok first }
  | .hook h => { hook := .ok h }
  | .other reading => reading

/-- A setting: its name, its place, and how it is read. -/
structure Field (η α : Type) where
  name : String
  get : Settings η → α
  read : Reading η → Except (List SettingFault) α

/-- The theme. -/
def themeField : Field η String where
  name := "theme"
  get := theme
  read reading := reading.text.mapError fun problem => [⟨["theme"], problem⟩]

/-- The default for line numbers: nothing, a truth value, or a group. -/
def lineNumbersField : Field η LineNumbers where
  name := "line_numbers"
  get := lineNumbers
  read reading :=
    if reading.isNull then .ok .unset
    else match reading.flag with
      | .ok on => .ok (.flag on)
      | .error problem =>
        match reading.start with
        | .ok first => .ok (.start first)
        -- A value that is neither has the faults of both.
        | .error faults =>
          .error (⟨["line_numbers", "bool"], problem⟩
            :: faults.map fun f => ⟨["line_numbers", "LineNumbersConfig"] ++ f.path, f.problem⟩)

/-- The hook, or none. -/
def hookField : Field η (Option η) where
  name := "load_languages"
  get := hook
  read reading :=
    if reading.isNull then .ok none
    else (reading.hook.map some).mapError fun problem => [⟨["load_languages"], problem⟩]

/-- Names of the settings. -/
def names : List String := ["theme", "line_numbers", "load_languages"]

/-- The value given for a name; the last one counts. -/
def given? (name : String) (members : List (String × Setting η)) : Option (Setting η) :=
  members.reverse.lookup name

/-- A setting, or what is wrong with the value given for it; without one, what it is in `s`. -/
def Field.check {α : Type} (f : Field η α) (s : Settings η) (members : List (String × Setting η)) :
    Except (List SettingFault) α :=
  match given? f.name members with
  | none => .ok (f.get s)
  | some value => f.read (readingOf value)

/-- The faults of a check. -/
def faultsOf {α : Type} : Except (List SettingFault) α → List SettingFault
  | .ok _ => []
  | .error faults => faults

/-- Names that are no setting, in the order given. -/
def unknownNames (members : List (String × Setting η)) : List SettingFault :=
  (members.filter fun m => !names.contains m.1).map fun m => ⟨[m.1], .unknown⟩

/-- Checks named values: known settings first, then unknown names in the order given. -/
def read (members : List (String × Setting η)) : Except (List SettingFault) (Settings η) :=
  match themeField.check {} members, lineNumbersField.check {} members,
    hookField.check {} members, unknownNames members with
  | .ok theme, .ok lineNumbers, .ok hook, [] => .ok ⟨theme, lineNumbers, hook⟩
  | theme, lineNumbers, hook, unknown =>
    .error (faultsOf theme ++ faultsOf lineNumbers ++ faultsOf hook ++ unknown)

/-- Settings as named values. Writing a hook out is left to `dumpHook`: a hook that is data besides
may come out as that data. -/
def dump (dumpHook : η → Setting η) (s : Settings η) : List (String × Setting η) :=
  [("theme", .data (.str s.theme)),
    ("line_numbers", .data (match s.lineNumbers with
      | .unset => .null
      | .flag on => .bool on
      | .start first => .obj [("start", .int first)])),
    ("load_languages", match s.hook with
      | none => .data .null
      | some h => dumpHook h)]

/-- Names under which a caller hands over what a highlighter works with; they are no options. -/
def collaborators : List String := ["renderer", "grammars", "context", "emitter"]

/-- Puts named options over settings; without options nothing is checked again. A hook is written out
as itself unless `dumpHook` says otherwise. -/
def override (base : Option (Settings η)) (named : List (String × Setting η))
    (dumpHook : η → Setting η := Setting.hook) : Except (List SettingFault) (Settings η) :=
  match named.filter fun m => !collaborators.contains m.1 with
  | [] => .ok (base.getD {})
  | options => read ((base.elim [] (dump dumpHook)) ++ options)

/-- Why a call gives no settings. -/
inductive CallFault where
  /-- The settings to start from are given by name as well. -/
  | repeated
  | refused (faults : List SettingFault)
deriving Repr, DecidableEq

/-- The name of the settings to start from. -/
def ownName : String := "config"

/-- The settings of a call that is given settings to start from and values by name. -/
def configure (base : Option (Settings η)) (named : List (String × Setting η))
    (dumpHook : η → Setting η := Setting.hook) : Except CallFault (Settings η) :=
  if named.any (·.1 = ownName) then .error .repeated
  else (override base named dumpHook).mapError .refused

end Settings

end CodeHighlight
