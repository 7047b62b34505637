import CodeHighlight.Yaml

/-!
# Front matter

A document may begin with data between two lines of three hyphens; the second may be three dots
instead. The rest is its body, in which every line break became a line feed. Where the data cannot
be loaded, the whole text is the body.
-/

namespace CodeHighlight

/-- A document without its front matter. -/
structure FrontMatter where
  entries : List (Yaml.Value × Yaml.Value)
  body : String
deriving Repr

namespace FrontMatter

/-- A document without front matter. -/
def none (source : String) : FrontMatter := ⟨[], source⟩

/-- The line opens the front matter. -/
def opens (line : List Char) : Bool := Text.trim line = "---".toList

/-- The line closes the front matter. -/
def closes (line : List Char) : Bool :=
  Text.trim line = "---".toList || Text.trim line = "...".toList

/-- The lines between the delimiters, and those behind them. -/
def delimited? (source : List Char) : Option (List (List Char) × List (List Char)) :=
  match Text.lines (source.dropWhile (· = Text.byteOrderMark)) with
  | [] => Option.none
  | first :: rest =>
    let data := rest.takeWhile fun line => !closes line
    match rest.drop data.length with
    | [] => Option.none
    | _ :: body => if opens first then some (data, body) else Option.none

/-- Lines with line feeds between them. -/
def joined (lines : List (List Char)) : List Char := Text.joinWith ['\n'] lines

/-- The entries of a mapping; another value has none. -/
def entriesOf : Yaml.Value → List (Yaml.Value × Yaml.Value)
  | .mapping entries => entries
  | _ => []

/-- Loads data: a value, or nothing where the text is no data, or a failure. -/
abbrev Loader := List Char → Except (Option Failure) Yaml.Value

/-- The loader of data texts. -/
def loadData : Loader := fun text => (Yaml.load text).mapError Yaml.Fault.failure?

/-- Separates the front matter from the body. -/
def split (source : String) (load : Loader := loadData) : Except Failure FrontMatter :=
  match delimited? source.toList with
  | Option.none => .ok (none source)
  | some (data, body) =>
    match load (joined data) with
    | .ok value =>
      let ending := if source.toList.getLast? = some '\n' then ['\n'] else []
      .ok ⟨entriesOf value, String.ofList (joined body ++ ending)⟩
    | .error Option.none => .ok (none source)
    | .error (some failure) => .error failure

end FrontMatter

end CodeHighlight
