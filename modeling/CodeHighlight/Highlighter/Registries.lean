import CodeHighlight.Block.Bundle
import CodeHighlight.Highlighter
import CodeHighlight.Settings

/-!
# Highlighters with registries of lexers

Several registries may exist side by side, each with a number. The supplier of a registry fetches
the lexers that the library brings and registers them there; the renderer of a registry looks its
lexers up in it. A hook may register further ones.
-/

namespace CodeHighlight

/-- Registries by number; a registry that was never used is empty. -/
structure Registries where
  used : List (Nat × LexerRegistry) := []

namespace Registries

/-- The registry with a number. -/
def get (w : Registries) (id : Nat) : LexerRegistry := (w.used.lookup id).getD {}

/-- Puts a registry in the place of the one with a number. -/
def put (w : Registries) (id : Nat) (r : LexerRegistry) : Registries := ⟨(id, r) :: w.used⟩

/-- A world with one registry. -/
def one (r : LexerRegistry) : Registries := put {} 0 r

/-- Registers a lexer in the registry with a number. -/
def register (id : Nat) (lexer : Lexer) : Action Registries Unit := fun w =>
  match (w.get id).register lexer with
  | .error fault => (.error fault.failure, w)
  | .ok r => (.ok (), w.put id r)

/-- A hook that registers lexers in the registry with a number. -/
def registerAll (id : Nat) (lexers : List Lexer) : Action Registries Unit := fun w =>
  match (w.get id).registerAll lexers with
  | (.error fault, r) => (.error fault.failure, w.put id r)
  | (.ok (), r) => (.ok (), w.put id r)

/-- Supplies the registry with a number with the lexers that the library brings. -/
def supply (id : Nat) : GrammarSupply Registries Lexer where
  scope := .registry id
  fetch language := fun w => (.ok (Lexer.bundled? language), w)
  register := register id

/-- Renders with the lexers of the registry with a number, and with the themes of a gallery. -/
def render (gallery : Theme.Gallery) (id : Nat) (request : RenderRequest) :
    Action Registries Payload := fun w =>
  match Bundle.render (w.get id) request gallery with
  | .error fault => (.error fault.failure, w)
  | .ok bundle => (.ok ⟨some bundle.markup, some bundle.style, some bundle.script⟩, w)

end Registries

/-- A highlighter whose supplier and renderer share the registry with a number. -/
def Highlighter.ofSettings (id : Nat) (settings : Settings (Action Registries Unit))
    (gallery : Theme.Gallery := .bundled) : Highlighter Registries Lexer where
  theme := settings.theme
  defaults := settings.defaults
  hook := settings.hook
  supply := Registries.supply id
  renderer := Registries.render gallery id

end CodeHighlight
