import CodeHighlight.Theme

/-!
# The themes

Themes that come with the library, and the names that the command line accepts. Names are compared
letter by letter, case included.
-/

namespace CodeHighlight.Theme

/-- The theme `monokai`. -/
def monokai : Theme where
  background := "#272822"
  highlight := "#49483e"
  text := some "f8f8f2"
  styles := [
    ([
      "w", "esc", "x", "n", "ni", "py", "nl", "nn", "nv", "vc", "vg", "vi", "vm", "p", "pm", "g",
      "ge", "gh", "gs", "ges"],
      { color := some "f8f8f2" }),
    (["err"], { color := some "ed007e", background := some "1e0010" }),
    (["k", "kc", "kd", "kp", "kr", "kt", "no", "go", "gt"], { color := some "66d9ef" }),
    (["kn", "nt", "o", "ow", "gd", "gr", "gp"], { color := some "ff4689" }),
    (["na", "nb", "bp", "nc", "nd", "ne", "nf", "fm", "nx", "gi"], { color := some "a6e22e" }),
    (["l", "se", "m", "mb", "mf", "mh", "mi", "il", "mo"], { color := some "ae81ff" }),
    ([
      "ld", "s", "sa", "sb", "sc", "dl", "sd", "s2", "sh", "si", "sx", "sr", "s1", "ss"],
      { color := some "e6db74" }),
    (["c", "ch", "cm", "cp", "cpf", "c1", "cs", "gu"], { color := some "959077" })]

/-- The theme `default`. -/
def standard : Theme where
  background := "#f8f8f8"
  highlight := "#ffffcc"
  styles := [
    (["w"], { color := some "bbbbbb" }),
    (["k", "kc", "kd", "kn", "kp", "kr", "nb", "bp", "nt", "sx"], { color := some "008000" }),
    (["kt"], { color := some "B00040" }),
    (["na"], { color := some "687822" }),
    (["nc", "nf", "fm", "nn"], { color := some "0000FF" }),
    (["no"], { color := some "880000" }),
    (["nd", "ow"], { color := some "AA22FF" }),
    (["ni", "go"], { color := some "717171" }),
    (["ne"], { color := some "CB3F38" }),
    (["nl"], { color := some "767600" }),
    (["nv", "vc", "vg", "vi", "vm", "ss"], { color := some "19177C" }),
    (["s", "sa", "sb", "sc", "dl", "sd", "s2", "sh", "s1"], { color := some "BA2121" }),
    (["se"], { color := some "AA5D1F" }),
    (["si", "sr"], { color := some "A45A77" }),
    (["m", "mb", "mf", "mh", "mi", "il", "mo", "o"], { color := some "666666" }),
    (["c", "ch", "cm", "cpf", "c1", "cs"], { color := some "3D7B7B" }),
    (["cp"], { color := some "9C6500" }),
    (["gd"], { color := some "A00000" }),
    (["gr"], { color := some "E40000" }),
    (["gh", "gp"], { color := some "000080" }),
    (["gi"], { color := some "008400" }),
    (["gu"], { color := some "800080" }),
    (["gt"], { color := some "0044DD" })]

/-- The theme `friendly`. -/
def friendly : Theme where
  background := "#f0f0f0"
  highlight := "#ffffcc"
  lineNumber := "#666666"
  styles := [
    (["w"], { color := some "bbbbbb" }),
    ([
      "k", "kc", "kd", "kn", "kp", "kr", "nb", "bp", "ne", "ow", "cp"],
      { color := some "007020" }),
    (["kt"], { color := some "902000" }),
    ([
      "na", "s", "sa", "sb", "sc", "dl", "sd", "s2", "se", "sh", "s1"],
      { color := some "4070a0" }),
    (["nc", "nn"], { color := some "0e84b5" }),
    (["no"], { color := some "60add5" }),
    (["nd"], { color := some "555555" }),
    (["ni"], { color := some "d55537" }),
    (["nf", "fm"], { color := some "06287e" }),
    (["nl"], { color := some "002070" }),
    (["nt"], { color := some "062873" }),
    (["nv", "vc", "vg", "vi", "vm"], { color := some "bb60d5" }),
    (["si"], { color := some "70a0d0" }),
    (["sx", "gp"], { color := some "c65d09" }),
    (["sr"], { color := some "235388" }),
    (["ss"], { color := some "517918" }),
    (["m", "mb", "mf", "mh", "mi", "il", "mo"], { color := some "40a070" }),
    (["o"], { color := some "666666" }),
    (["c", "ch", "cm", "cpf", "c1"], { color := some "60a0b0" }),
    (["cs"], { color := some "60a0b0", background := some "fff0f0" }),
    (["gd"], { color := some "A00000" }),
    (["gr"], { color := some "FF0000" }),
    (["gh"], { color := some "000080" }),
    (["gi"], { color := some "00A000" }),
    (["go"], { color := some "888888" }),
    (["gu"], { color := some "800080" }),
    (["gt"], { color := some "0044DD" })]

/-- The theme `solarized-dark`. -/
def solarizedDark : Theme where
  background := "#002b36"
  highlight := "#073642"
  lineNumber := "#586e75"
  text := some "839496"
  styles := [
    ([
      "w", "esc", "x", "n", "na", "py", "nx", "l", "ld", "p", "pm", "g", "ge", "gh", "go", "gs",
      "ges"],
      { color := some "839496" }),
    (["err"], { color := some "839496", background := some "dc322f" }),
    (["k", "kp", "kr", "ow", "gi"], { color := some "859900" }),
    ([
      "kc", "kd", "s", "sa", "sb", "sc", "dl", "s2", "se", "sh", "si", "sx", "s1", "ss", "m", "mb",
      "mf", "mh", "mi", "il", "mo"],
      { color := some "2aa198" }),
    (["kn", "sr"], { color := some "cb4b16" }),
    (["kt"], { color := some "b58900" }),
    ([
      "nb", "bp", "nc", "no", "nd", "ni", "ne", "nf", "fm", "nl", "nn", "nt", "nv", "vc", "vg",
      "vi", "vm", "gp", "gt"],
      { color := some "268bd2" }),
    (["sd", "o", "c", "ch", "cm", "cpf", "c1", "cs"], { color := some "586e75" }),
    (["cp"], { color := some "d33682" }),
    (["gd", "gr"], { color := some "dc322f" }),
    (["gu"], { color := some "839496", underline := true })]

/-- The theme `native`. -/
def native : Theme where
  background := "#202020"
  highlight := "#404040"
  lineNumber := "#aaaaaa"
  text := some "d0d0d0"
  styles := [
    (["w"], { color := some "666666" }),
    ([
      "esc", "x", "n", "ni", "py", "nl", "nx", "l", "ld", "o", "p", "pm", "g", "ge", "gs", "ges"],
      { color := some "d0d0d0" }),
    (["err"], { color := some "a61717", background := some "e3d2d2" }),
    (["k", "kc", "kd", "kn", "kp", "kr", "kt", "nt", "ow"], { color := some "6ebf26" }),
    (["na", "ne"], { color := some "bbbbbb" }),
    (["nb", "bp"], { color := some "2fbccd" }),
    (["nc", "nn"], { color := some "71adff", underline := true }),
    (["no", "nv", "vc", "vg", "vi", "vm"], { color := some "40ffff" }),
    (["nd", "sx"], { color := some "ffa500" }),
    (["nf", "fm"], { color := some "71adff" }),
    ([
      "s", "sa", "sb", "sc", "dl", "sd", "s2", "se", "sh", "si", "sr", "s1", "ss"],
      { color := some "ed9d13" }),
    (["m", "mb", "mf", "mh", "mi", "il", "mo"], { color := some "51b2fd" }),
    (["c", "ch", "cm", "cpf", "c1"], { color := some "ababab" }),
    (["cp", "gd", "gr", "gt"], { color := some "ff3a3a" }),
    (["cs"], { color := some "e50808", background := some "520000" }),
    (["gh"], { color := some "ffffff" }),
    (["gi"], { color := some "589819" }),
    (["go"], { color := some "cccccc" }),
    (["gp"], { color := some "aaaaaa" }),
    (["gu"], { color := some "ffffff", underline := true })]

/-- The theme `algol`. -/
def algol : Theme where
  background := "#ffffff"
  highlight := "#ffffcc"
  styles := [
    (["k", "kc", "kd", "kn", "kp", "kr", "kt"], { underline := true }),
    ([
      "nc", "no", "nf", "fm", "nn", "nv", "vc", "vg", "vi", "vm", "s", "sa", "sb", "sc", "dl", "sd",
      "s2", "se", "sh", "si", "sx", "sr", "s1", "ss"],
      { color := some "666666" }),
    (["c", "ch", "cm", "cp", "cpf", "c1", "cs"], { color := some "888888" })]

/-- The theme `bw`. -/
def blackWhite : Theme where
  background := "#ffffff"
  highlight := "#ffffcc"
  styles := []

/-- These themes by name. -/
def listed : List (String × Theme) := [
  ("monokai", monokai), ("default", standard), ("friendly", friendly),
  ("solarized-dark", solarizedDark), ("native", native), ("algol", algol), ("bw", blackWhite)]

private theorem isOneLine_of_mem_listed : ∀ p ∈ listed, p.2.IsOneLine := by decide +kernel

/-- The gallery of these themes. -/
def Gallery.bundled : Gallery where
  find? name := listed.lookup name
  oneLine name theme h := by
    obtain ⟨front, back, hlisted, -⟩ := List.lookup_eq_some_iff.mp h
    apply isOneLine_of_mem_listed (name, theme)
    rw [hlisted]
    exact List.mem_append_right _ List.mem_cons_self

/-- Names that the command line accepts. -/
def names : List String := [
  "abap", "algol", "algol_nu", "arduino", "autumn", "bw", "borland", "coffee", "colorful",
  "default", "dracula", "emacs", "friendly_grayscale", "friendly", "fruity", "github-dark",
  "gruvbox-dark", "gruvbox-light", "igor", "inkpot", "lightbulb", "lilypond", "lovelace", "manni",
  "material", "monokai", "murphy", "native", "night-owl", "nord-darker", "nord", "one-dark",
  "paraiso-dark", "paraiso-light", "pastie", "perldoc", "rainbow_dash", "rrt", "sas",
  "solarized-dark", "solarized-light", "staroffice", "stata-dark", "stata-light", "tango", "trac",
  "vim", "vs", "xcode", "zenburn"]

end CodeHighlight.Theme
