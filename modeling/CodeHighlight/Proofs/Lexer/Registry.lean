import CodeHighlight.Lexer.Registry

/-!
# Registrations one after the other

What a registry holds after several registrations: under every alias the lexer that was registered
last, or else what was there before.
-/

namespace CodeHighlight

/-- A lexer with the names under which it is registered. -/
abbrev Registration := Lexer × List String

namespace Registration

/-- The lexer is registered under the alias. -/
def covers (e : Registration) (name : String) : Bool :=
  (e.2.map Text.lowered).contains (Text.lowered name)

/-- The lexer that was registered last under an alias. -/
def last? : List Registration → String → Option Lexer
  | [], _ => none
  | e :: rest, name => (last? rest name).or (if e.covers name then some e.1 else none)

/-- What a call of the registry registers: a lexer under the aliases given, or else its own. -/
def ofCall (call : Lexer × List String) : Registration := (call.1, call.1.effectiveNames call.2)

end Registration

/-- Without aliases given, a lexer that declares some is registered under these. -/
theorem Lexer.effectiveNames_nil (lexer : Lexer) (name : String) (h : name ∈ lexer.aliases) :
    lexer.effectiveNames [] = lexer.aliases := by
  cases ha : lexer.aliases with
  | nil =>
    rw [ha] at h
    cases h
  | cons first rest => simp [effectiveNames, ha]

/-- A lexer that declares an alias has a name. -/
theorem Lexer.effectiveNames_ne_nil (lexer : Lexer) (name : String) (h : name ∈ lexer.aliases) :
    lexer.effectiveNames [] ≠ [] := by
  rw [lexer.effectiveNames_nil name h]
  exact List.ne_nil_of_mem h

namespace LexerRegistry

/-- Puts lexers under their names, one after the other. -/
def insertEach (r : LexerRegistry) (rs : List Registration) : LexerRegistry :=
  rs.foldl (fun r e => r.insertAll e.1 e.2) r

/-- Without registrations nothing changes. -/
theorem insertEach_nil (r : LexerRegistry) : r.insertEach [] = r := rfl

/-- Registrations follow one another. -/
theorem insertEach_append (r : LexerRegistry) (a b : List Registration) :
    r.insertEach (a ++ b) = (r.insertEach a).insertEach b :=
  List.foldl_append

/-- A lexer is found under its names, and under other names what was there before. -/
theorem get?_insertAll (r : LexerRegistry) (lexer : Lexer) (names : List String) (name : String) :
    (r.insertAll lexer names).get? name =
      if Registration.covers (lexer, names) name then some lexer else r.get? name := by
  induction names generalizing r with
  | nil => rfl
  | cons first rest ih =>
    rw [insertAll, List.foldl_cons, ← insertAll, ih, get?, List.lookup_cons]
    by_cases h : Text.lowered name = Text.lowered first
    · simp [Registration.covers, h]
    · have hne : (Text.lowered name == Text.lowered first) = false := by simp [h]
      simp [Registration.covers, hne, h, get?]

/-- The last registration counts. -/
theorem get?_insertEach (r : LexerRegistry) (rs : List Registration) (name : String) :
    (r.insertEach rs).get? name = (Registration.last? rs name).or (r.get? name) := by
  induction rs generalizing r with
  | nil => rfl
  | cons e rest ih =>
    rw [insertEach, List.foldl_cons, ← insertEach, ih, get?_insertAll, Registration.last?,
      Option.or_assoc]
    split <;> rfl

/-- A lexer with a name is registered. -/
theorem register_of_names (r : LexerRegistry) (lexer : Lexer) (aliases : List String)
    (h : lexer.effectiveNames aliases ≠ []) :
    r.register lexer aliases = .ok (r.insertAll lexer (lexer.effectiveNames aliases)) := by
  rw [register]
  split
  · contradiction
  · rfl

/-- Registers lexers under the aliases given, one after the other up to the first fault; those
before it stay. -/
def registerEach (r : LexerRegistry) :
    List (Lexer × List String) → Except RegistrationFault Unit × LexerRegistry
  | [] => (.ok (), r)
  | call :: rest =>
    match r.register call.1 call.2 with
    | .error fault => (.error fault, r)
    | .ok r => r.registerEach rest

/-- Without a fault every lexer is registered. -/
theorem registerEach_of_ok (r : LexerRegistry) (calls : List (Lexer × List String))
    (h : (r.registerEach calls).1 = .ok ()) :
    (∀ call ∈ calls, call.1.effectiveNames call.2 ≠ []) ∧
      (r.registerEach calls).2 = r.insertEach (calls.map Registration.ofCall) := by
  induction calls generalizing r with
  | nil => exact ⟨nofun, rfl⟩
  | cons call rest ih =>
    by_cases hn : call.1.effectiveNames call.2 = []
    · have hr : r.register call.1 call.2 = .error (.nameless call.1.ident) := by
        rw [register, hn]
      rw [registerEach, hr] at h
      cases h
    · have hr := register_of_names r call.1 call.2 hn
      rw [registerEach, hr] at h ⊢
      obtain ⟨hnames, hall⟩ := ih _ h
      constructor
      · intro c hc
        rcases List.mem_cons.mp hc with rfl | hc
        · exact hn
        · exact hnames c hc
      · rw [hall]
        rfl

/-- Lexers with names are registered without a fault. -/
theorem registerEach_ok (r : LexerRegistry) (calls : List (Lexer × List String))
    (h : ∀ call ∈ calls, call.1.effectiveNames call.2 ≠ []) :
    (r.registerEach calls).1 = .ok () := by
  induction calls generalizing r with
  | nil => rfl
  | cons call rest ih =>
    rw [registerEach, register_of_names r call.1 call.2 (h call List.mem_cons_self)]
    exact ih _ fun c hc => h c (List.mem_cons_of_mem _ hc)

/-- Registrations only add to a registry, also those before a fault. -/
theorem exists_insertEach_registerEach (r : LexerRegistry) (calls : List (Lexer × List String)) :
    ∃ rs, (r.registerEach calls).2 = r.insertEach rs := by
  induction calls generalizing r with
  | nil => exact ⟨[], rfl⟩
  | cons call rest ih =>
    by_cases hn : call.1.effectiveNames call.2 = []
    · have hr : r.register call.1 call.2 = .error (.nameless call.1.ident) := by
        rw [register, hn]
      rw [registerEach, hr]
      exact ⟨[], rfl⟩
    · rw [registerEach, register_of_names r call.1 call.2 hn]
      obtain ⟨rs, hrs⟩ := ih (r.insertAll call.1 (call.1.effectiveNames call.2))
      exact ⟨Registration.ofCall call :: rs, hrs⟩

end LexerRegistry

end CodeHighlight
