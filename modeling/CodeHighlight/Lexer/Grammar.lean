import CodeHighlight.Fault
import CodeHighlight.Lexer.Token
import CodeHighlight.Pattern

/-!
# Lexers made of rules

A grammar gives every state a list of rules. At each place the rules of the state on top of the
stack are tried in order; the first that matches emits its tokens and may push states or drop the
top one. Where no rule matches, a line feed resets the stack and any other character is an error.
-/

namespace CodeHighlight

/-- What a rule emits for a marked part of its match. -/
inductive PartEmission where
  /-- One token. -/
  | token (kind : TokenKind)
  /-- The tokens of the part, read by the same grammar from its first state. -/
  | nested

/-- What a rule emits. -/
inductive Emission where
  /-- Nothing. -/
  | nothing
  /-- The match as one token. -/
  | token (kind : TokenKind)
  /-- The parts marked 1, 2, and so on; empty parts emit no token. -/
  | parts (emissions : List PartEmission)

/-- What a rule does to the stack of states. -/
inductive Move (σ : Type) where
  | stay
  | push (state : σ)
  | pop

/-- A rule of a grammar. -/
structure Rule (σ : Type) where
  pattern : Pattern
  emission : Emission
  move : Move σ

/-- A grammar with states `σ`. -/
structure Grammar (σ : Type) where
  first : σ
  rules : σ → List (Rule σ)

namespace Rule

variable {σ : Type}

/-- A rule with one token that keeps the state. -/
def token (pattern : Pattern) (kind : TokenKind) : Rule σ := ⟨pattern, .token kind, .stay⟩

/-- A rule with one token that pushes a state. -/
def enter (pattern : Pattern) (kind : TokenKind) (state : σ) : Rule σ :=
  ⟨pattern, .token kind, .push state⟩

/-- A rule with one token that leaves the state. -/
def leave (pattern : Pattern) (kind : TokenKind) : Rule σ := ⟨pattern, .token kind, .pop⟩

/-- A rule that leaves the state and takes nothing. -/
def otherwise : Rule σ := ⟨.empty, .nothing, .pop⟩

/-- A rule with one token per part: the parts of the pattern are marked in order. -/
def parts (pieces : List (Pattern × TokenKind)) (move : Move σ) : Rule σ where
  pattern := .sequence (pieces.zipIdx.map fun (piece, i) => .marked (i + 1) piece.1)
  emission := .parts (pieces.map fun piece => .token piece.2)
  move := move

end Rule

namespace Move

variable {σ : Type}

/-- The stack after a move; the last state is never dropped. -/
def apply (move : Move σ) (top : σ) (below : List σ) : σ × List σ :=
  match move with
  | stay => (top, below)
  | push state => (state, top :: below)
  | pop => match below with
    | [] => (top, [])
    | next :: rest => (next, rest)

end Move

namespace Grammar

variable {σ : Type}

/-- The tokens that a rule emits for a match from `p` to `q`. -/
def emit (nested : List Char → List Token) (emission : Emission) (p q : Place) : List Token :=
  match emission with
  | .nothing => []
  | .token kind => [⟨kind, p.textUpTo q⟩]
  | .parts emissions => emissions.zipIdx.flatMap fun (part, i) =>
      match p.marked? q (i + 1), part with
      | none, _ => []
      | some [], _ => []
      | some text, .token kind => [⟨kind, text⟩]
      | some text, .nested => nested text

/-- Reads on from a place with a stack of states. Every step takes a character or drops a state. -/
def run (g : Grammar σ) (nested : List Char → List Token) :
    Nat → σ → List σ → Place → List Token
  | 0, _, _, _ => []
  | fuel + 1, top, below, p =>
    let matching := (g.rules top).findSome? fun rule =>
      (rule.pattern.matchAt? p).map fun q => (rule, q)
    match matching with
    | some (rule, q) =>
      let (top', below') := rule.move.apply top below
      emit nested rule.emission p q ++ g.run nested fuel top' below' q
    | none =>
      match p.rest with
      | [] => []
      | c :: rest =>
        if c = '\n' then ⟨.whitespace, ['\n']⟩ :: g.run nested fuel g.first [] (p.step c rest)
        else ⟨.error, [c]⟩ :: g.run nested fuel top below (p.step c rest)

/-- The tokens of a text; `depth` bounds how deep parts are read by the grammar itself. -/
def tokensTo (g : Grammar σ) : Nat → List Char → List Token
  | 0, _ => []
  | depth + 1, text =>
    g.run (g.tokensTo depth) (3 * text.length + 3) g.first [] (.start text)

/-- The tokens of a text. -/
def tokens (g : Grammar σ) (text : List Char) : List Token := g.tokensTo (text.length + 1) text

end Grammar

end CodeHighlight
