import CodeHighlight.Block.Markup
import CodeHighlight.Block.Script
import CodeHighlight.Lexer.Registry
import CodeHighlight.Theme.Gallery
import CodeHighlight.Trace

/-!
# Bundles

A block is rendered as a bundle of markup, style sheet and script. All three carry the block's label
and come from one normalized source, so that the ranges fit the lines.
-/

namespace CodeHighlight

/-- What takes the place of a code block. -/
structure Bundle where
  markup : String
  style : String
  script : String
deriving Repr, DecidableEq

/-- Why a block is not rendered. -/
inductive RenderFault where
  | unknownTheme (name : String)
  /-- The lexer failed. -/
  | unreadable (language : String) (cause : Failure)
  /-- A line number that cannot be written. -/
  | numeral (fault : Text.NumeralFault)
deriving Repr

/-- The failure that a fault raises. -/
def RenderFault.failure : RenderFault → Failure
  | .unknownTheme name => .plain .render ("Unknown theme '" ++ name ++ "'")
  | .unreadable language cause =>
    .because .render ("Failed to tokenize " ++ language ++ " source") cause
  | .numeral fault => .plain .badValue fault.message

namespace Bundle

/-- Renders a normalized source whose ranges are known. -/
def ofRanges (theme : Theme) (label language : String) (source : List Char) (d : Directives)
    (ranges : RangeGroups) : Except Text.NumeralFault Bundle := do
  let lines := CodeLine.ofSource source d
  let markup ← Block.markup label.toList language.toList lines
  return {
    markup := String.ofList markup
    style := Block.style theme label lines ranges.keys
    script := String.ofList (Block.script theme label ranges) }

/-- Renders a block with the lexer that a registry holds for its language, and with the theme of a
gallery. -/
def render (registry : LexerRegistry) (request : RenderRequest)
    (gallery : Theme.Gallery := .bundled) : Except RenderFault Bundle :=
  match gallery.find? request.theme with
  | none => .error (.unknownTheme request.theme)
  | some theme =>
    let source := CodeLine.normalize request.code.toList
    match (registry.lexerFor request.language).tokens source with
    | .error cause => .error (.unreadable request.language cause)
    | .ok tokens =>
      (ofRanges theme request.label request.language source request.directives
        (.ofTokens tokens)).mapError .numeral

end Bundle

end CodeHighlight
