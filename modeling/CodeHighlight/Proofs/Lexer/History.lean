import CodeHighlight.Proofs.Lexer.Registry

/-!
# Histories of a registry

A registry is changed by calls, each of which registers a lexer or fails. Under an alias, in
whatever letter case, stands the lexer of the last call that had the alias among its names. A call
fails if and only if it finds no name for its lexer, and then it changes nothing; a call that
succeeds changes what stands under its own names only.
-/

namespace CodeHighlight

namespace Registration

/-- The alias is among the names under which a call registers its lexer, in whatever letter case. -/
def Names (call : Lexer × List String) (name : String) : Prop :=
  ∃ own ∈ call.1.effectiveNames call.2, Text.lowered own = Text.lowered name

end Registration

namespace LexerRegistry

open Registration (Names)

end LexerRegistry

end CodeHighlight
