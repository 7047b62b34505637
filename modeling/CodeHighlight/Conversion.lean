import CodeHighlight.Document.Markup
import CodeHighlight.FrontMatter
import CodeHighlight.Highlighter
import CodeHighlight.Markdown.Tree

/-!
# Converting Markdown

A source is split into front matter and body, the body is read as a document, its code blocks are
highlighted, and the document is written as markup.
-/

namespace CodeHighlight

/-- A converted source. -/
structure Conversion where
  html : String
  entries : List (Yaml.Value × Yaml.Value)
deriving Repr

/-- What conversions one after the other share. -/
structure ConversionState (ω : Type) where
  world : ω
  context : HighlightContext := {}

namespace Highlighter

variable {ω γ : Type}

/-- Highlights the code of a document. -/
def transformTree (h : Highlighter ω γ) (tree : Node) (s : ConversionState ω) :
    Except Failure Node × ConversionState ω × List Step :=
  let (store, root) := ({} : Store).insert tree
  let (done, run) := h.transform root ⟨s.world, s.context, store, []⟩
  (done.map fun _ => run.store.tree root, ⟨run.world, run.context⟩, run.trace)

/-- Converts a source; the steps of the run are those of its highlighting. -/
def convertSource (h : Highlighter ω γ) (source : String) (s : ConversionState ω) :
    Except Failure Conversion × ConversionState ω × List Step :=
  match FrontMatter.split source with
  | .error failure => (.error failure, s, [])
  | .ok front =>
    match Markdown.parse front.body with
    | .error fault => (.error fault.failure, s, [])
    | .ok tree =>
      let (done, s, steps) := h.transformTree tree s
      (done.map fun tree => ⟨tree.render, front.entries⟩, s, steps)

end Highlighter

end CodeHighlight
