import CodeHighlight.Settings

/-!
# Options over settings

Settings are written out as named values, options are put behind them, and all of it is checked
again. What was written out is read back as it was, so options are checked as they are by
themselves, with the settings as the defaults of those that are not named. Of a hook this is asked,
unless an option names another one: a hook that is written out as data is no hook when it is read.
-/

namespace CodeHighlight

namespace Settings

variable {η α : Type}

/-! ## Values by name -/

section

variable (dumpHook : η → Setting η)

end

/-! ## Faults -/

/-- What is wrong with the value that is given for a setting. -/
def Field.faults (f : Field η α) (members : List (String × Setting η)) : List SettingFault :=
  (given? f.name members).elim [] fun value => faultsOf (f.read (readingOf value))

/-- Lines stay numbered when only the theme is named. -/
example : configure (some ({ lineNumbers := .flag true } : Settings Unit))
    [("theme", .data (.str "friendly"))] =
      .ok { theme := "friendly", lineNumbers := .flag true } := rfl

end Settings

end CodeHighlight
