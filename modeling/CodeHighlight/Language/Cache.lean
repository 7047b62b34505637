/-!
# Memory of loaded languages

A language is loaded into a scope, such as one registry of lexers. What is loaded in one scope may
be missing in another. The memory only grows.
-/

namespace CodeHighlight

/-- Where grammars are registered. -/
inductive Scope where
  /-- Suppliers that name no scope share one. -/
  | unnamed
  /-- A scope with a name. -/
  | named (name : String)
  /-- The scope of a registry of lexers. -/
  | registry (id : Nat)
deriving Repr, DecidableEq

/-- The loaded languages with their scopes, in the order of loading. -/
structure LanguageCache where
  entries : List (Scope × String) := []
deriving Repr, DecidableEq

namespace LanguageCache

/-- The language is loaded in the scope. -/
def isLoaded (c : LanguageCache) (scope : Scope) (language : String) : Bool :=
  c.entries.contains (scope, language)

/-- Records a language; the flag tells whether it is new. -/
def add (c : LanguageCache) (scope : Scope) (language : String) : LanguageCache × Bool :=
  if c.isLoaded scope language then (c, false) else (⟨c.entries ++ [(scope, language)]⟩, true)

/-- Number of entries in all scopes. -/
def size (c : LanguageCache) : Nat := c.entries.length

/-- The languages of a scope in the order of loading. -/
def languages (c : LanguageCache) (scope : Scope) : List String :=
  (c.entries.filter fun e => e.1 = scope).map Prod.snd

/-- The languages of a scope in alphabetical order. -/
def snapshot (c : LanguageCache) (scope : Scope) : List String :=
  (c.languages scope).mergeSort fun a b => !decide (b < a)

end LanguageCache

end CodeHighlight
