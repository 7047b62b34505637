import CodeHighlight.Lexer.Diff
import CodeHighlight.Lexer.JsonText
import CodeHighlight.Lexer.Python
import CodeHighlight.Text.Case

/-!
# Registries of lexers

A registry finds a lexer by alias, and letter case does not count. A lexer is registered under the
aliases that the caller gives, or else under those that it declares, or else under its title. A
later registration takes an alias over. The library brings some lexers of its own, which a registry
holds only once they are asked for.
-/

namespace CodeHighlight

/-- Lexers by small-letter alias; the last registration stands first. -/
structure LexerRegistry where
  entries : List (String × Lexer) := []

/-- Why a lexer is not registered. -/
inductive RegistrationFault where
  /-- A lexer without aliases and without a title. -/
  | nameless (ident : String)
  /-- No lexer at all. -/
  | absent
deriving Repr, DecidableEq

/-- The failure that a fault raises. -/
def RegistrationFault.failure : RegistrationFault → Failure
  | .nameless ident => .plain .grammarLoad ("Lexer <class '" ++ ident ++ "'> declares no alias")
  | .absent => .plain .grammarLoad "Lexer None declares no alias"

namespace Lexer

/-- The names under which a lexer is registered: the aliases given, or those declared, or the
title. -/
def effectiveNames (lexer : Lexer) (aliases : List String) : List String :=
  if !aliases.isEmpty then aliases
  else if !lexer.aliases.isEmpty then lexer.aliases
  else if lexer.title ≠ "" then [lexer.title]
  else []

/-- The lexers that the library brings. -/
def bundled : List Lexer := [plain, python, json, diff]

/-- The lexer of the library that declares an alias, which is compared in small letters. -/
def bundled? (name : String) : Option Lexer :=
  bundled.find? fun lexer => lexer.aliases.contains (Text.lowered name)

end Lexer

namespace LexerRegistry

/-- The lexer registered under an alias. -/
def get? (r : LexerRegistry) (name : String) : Option Lexer :=
  r.entries.lookup (Text.lowered name)

/-- Some lexer is registered under the alias. -/
def contains (r : LexerRegistry) (name : String) : Bool :=
  (r.entries.map Prod.fst).contains (Text.lowered name)

/-- Puts a lexer under the given names. -/
def insertAll (r : LexerRegistry) (lexer : Lexer) (names : List String) : LexerRegistry :=
  names.foldl (fun r name => ⟨(Text.lowered name, lexer) :: r.entries⟩) r

/-- Registers a lexer under the given aliases, or else under its own names. -/
def register (r : LexerRegistry) (lexer : Lexer) (aliases : List String := []) :
    Except RegistrationFault LexerRegistry :=
  match lexer.effectiveNames aliases with
  | [] => .error (.nameless lexer.ident)
  | names => .ok (r.insertAll lexer names)

/-- Registers lexers one after the other up to the first fault; those before it stay. -/
def registerAll (r : LexerRegistry) : List Lexer → Except RegistrationFault Unit × LexerRegistry
  | [] => (.ok (), r)
  | lexer :: rest =>
    match r.register lexer with
    | .error fault => (.error fault, r)
    | .ok r => r.registerAll rest

/-- Registers what a search found. -/
def registerFound (r : LexerRegistry) : Option Lexer → Except RegistrationFault LexerRegistry
  | none => .error .absent
  | some lexer => r.register lexer

/-- The lexer for a language; plain text where none is registered. -/
def lexerFor (r : LexerRegistry) (language : String) : Lexer := (r.get? language).getD .plain

end LexerRegistry

end CodeHighlight
