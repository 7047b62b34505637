import CodeHighlight.Proofs.Markdown.Part

/-!
# Exposed code

What is open around a token is found by reading the row alone: a token that opens is open until one
closes it. Code is exposed if nothing but containers is open around it and it closes none of them.
The tokens of code among the parts of a row are the exposed ones, in the order of the row.
-/

namespace CodeHighlight.Markdown

namespace Token

/-- What is open behind a token, where `around` is open before it; the innermost comes first. -/
def openBehind (around : List Token) (token : Token) : List Token :=
  match token.nesting with
  | .opens => token :: around
  | .stands => around
  | .closes => around.tail

/-- Nothing but containers is open. -/
def areContainers (around : List Token) : Bool := around.all fun token => token.container?.isSome

/-- The token is code, nothing but containers is open around it, and it closes none of them. -/
def isExposed (around : List Token) (token : Token) : Bool :=
  token.isCode && areContainers around && !(token.nesting = .closes && !around.isEmpty)

/-- The exposed code of a row. -/
def exposed (around : List Token) : List Token → List Token
  | [] => []
  | token :: rest =>
    (if isExposed around token then [token] else []) ++ exposed (openBehind around token) rest

/-- What is open behind a token that closes nothing more than is open within. -/
theorem openBehind_append (opened around : List Token) (token : Token)
    (h : 0 ≤ opened.length + token.nesting.step) :
    openBehind (opened ++ around) token = openBehind opened token ++ around ∧
      ((openBehind opened token).length : Int) = opened.length + token.nesting.step := by
  rw [openBehind, openBehind]
  cases hnesting : token.nesting with
  | opens => exact ⟨rfl, by simp [Nesting.step]⟩
  | stands => exact ⟨rfl, by simp [Nesting.step]⟩
  | closes =>
    rw [hnesting, Nesting.step] at h
    cases opened with
    | nil =>
      rw [List.length_nil] at h
      omega
    | cons first opened =>
      refine ⟨rfl, ?_⟩
      simp only [List.tail_cons, List.length_cons, Nesting.step]
      omega

/-- A token that closes nothing more than is open within is exposed if it is so within and nothing
but containers is around. -/
theorem isExposed_append (opened around : List Token) (token : Token)
    (h : 0 ≤ opened.length + token.nesting.step) :
    isExposed (opened ++ around) token = (isExposed opened token && areContainers around) := by
  have hcloses : (token.nesting = .closes && !(opened ++ around).isEmpty) =
      (token.nesting = .closes && !opened.isEmpty) := by
    cases opened with
    | cons first opened => rfl
    | nil =>
      cases hnesting : token.nesting with
      | opens | stands => rfl
      | closes =>
        rw [hnesting, Nesting.step, List.length_nil] at h
        omega
  rw [isExposed, isExposed, hcloses, areContainers, areContainers, areContainers, List.all_append]
  ac_rfl

/-- Code in a row that stays within is exposed if it is so within the row and nothing but containers
is around; behind the row as much is open as the row leaves open. -/
theorem exposed_append (inner opened : List Token) (h : StaysWithin opened.length inner) :
    ∃ left : List Token, (left.length : Int) = opened.length + depth inner ∧
      ∀ around rest, exposed (opened ++ around) (inner ++ rest) =
        (if areContainers around then exposed opened inner else []) ++
          exposed (left ++ around) rest := by
  induction inner generalizing opened with
  | nil => exact ⟨opened, by simp, fun around rest => by simp [exposed]⟩
  | cons token inner ih =>
    obtain ⟨-, hwithin⟩ := (staysWithin_cons _ _ _).mp h
    have hzero := hwithin [] List.nil_prefix
    rw [depth_nil, Int.add_zero] at hzero
    have hlength := (openBehind_append opened [] token hzero).2
    rw [← hlength] at hwithin
    obtain ⟨left, hleft, hexposed⟩ := ih (openBehind opened token) hwithin
    refine ⟨left, by rw [hleft, hlength, depth_cons, Int.add_assoc], ?_⟩
    intro around rest
    rw [List.cons_append, exposed, (openBehind_append opened around token hzero).1, hexposed,
      isExposed_append opened around token hzero, exposed, ← List.append_assoc]
    congr 1
    cases areContainers around with
    | true => rw [Bool.and_true, if_pos rfl, if_pos rfl]
    | false => rw [Bool.and_false]; rfl

/-- A token that opens nothing is exposed if it is code. -/
theorem exposed_single (token : Token) (rest : List Token) (h : token.nesting ≠ .opens) :
    exposed [] (token :: rest) = (if token.isCode then [token] else []) ++ exposed [] rest := by
  have hbehind : openBehind [] token = [] := by
    rw [openBehind]
    cases hnesting : token.nesting with
    | opens => exact (h hnesting).elim
    | stands | closes => rfl
  have hexposed : isExposed [] token = token.isCode := by simp [isExposed, areContainers]
  rw [exposed, hbehind, hexposed]

/-- The code in a balanced enclosure is exposed if the enclosure is a container, and so is its first
token if that is code. -/
theorem exposed_enclosure (first last : Token) (inner after : List Token)
    (hfirst : first.nesting = .opens) (hlast : last.nesting = .closes) (h : Balanced inner) :
    exposed [] (first :: (inner ++ last :: after)) = (if first.isCode then [first] else []) ++
      ((if first.container?.isSome then exposed [] inner else []) ++ exposed [] after) := by
  obtain ⟨left, hleft, hinner⟩ := exposed_append inner [] h.staysWithin
  rw [h.depth_eq] at hleft
  obtain rfl : left = [] := List.eq_nil_of_length_eq_zero (by simpa using hleft)
  have hopens : isExposed [] first = first.isCode := by simp [isExposed, areContainers]
  have hbehind : openBehind [] first = [first] := by rw [openBehind, hfirst]
  have haround : areContainers [first] = first.container?.isSome := Bool.and_true _
  have hcloses : isExposed [first] last = false := by simp [isExposed, hlast]
  have hdone : openBehind [first] last = [] := by rw [openBehind, hlast, List.tail_cons]
  rw [exposed, hopens, hbehind]
  congr 1
  have hrest := hinner [first] (last :: after)
  rw [List.nil_append, haround, exposed, hcloses, hdone] at hrest
  exact hrest

end Token

namespace Part

mutual

/-- The tokens of code of a part are the exposed ones. -/
theorem exposed_tokens (part : Part) (rest : List Token) (h : part.IsSound) :
    Token.exposed [] (part.tokens ++ rest) = part.codeTokens ++ Token.exposed [] rest := by
  -- A part whose first token is no container has no code but that token.
  have hplain (first : Token) (more : List Token) (hpart : Token.IsPart (first :: more))
      (hkind : first.container? = none) : Token.exposed [] (first :: more ++ rest) =
        (if first.isCode then [first] else []) ++ Token.exposed [] rest := by
    rcases Token.IsPart.cases _ hpart with
      ⟨only, heq, honly⟩ | ⟨first', last, inner, heq, hfirst, hlast, hinner⟩
    · obtain ⟨rfl, rfl⟩ := List.cons.inj heq
      exact Token.exposed_single first rest honly
    · obtain ⟨rfl, rfl⟩ := List.cons.inj heq
      rw [List.cons_append, List.append_assoc, List.singleton_append,
        Token.exposed_enclosure first last inner rest hfirst hlast hinner, hkind]
      rfl
  cases part with
  | code token skipped =>
    rw [tokens, hplain token skipped h.2 (token.container?_of_isCode h.1), h.1]
    rfl
  | leaf first more =>
    rw [tokens, hplain first more h.2.2 h.2.1, h.1]
    rfl
  | container kind first parts last =>
    obtain ⟨hkind, hfirst, hlast, hinner, hparts⟩ := h
    have hcode : first.isCode = false := by
      cases hcode : first.isCode with
      | false => rfl
      | true =>
        rw [first.container?_of_isCode hcode] at hkind
        cases hkind
    rw [tokens, codeTokens, List.cons_append, List.append_assoc, List.singleton_append,
      Token.exposed_enclosure first last _ rest hfirst hlast hinner, hcode, hkind,
      exposed_tokensAll parts hparts]
    rfl
  | bare kind token =>
    have hcode : token.isCode = false := by
      cases hcode : token.isCode with
      | false => rfl
      | true =>
        rw [IsSound, token.container?_of_isCode hcode] at h
        cases h.1
    rw [tokens, codeTokens, List.singleton_append, Token.exposed_single token rest h.2, hcode]
    rfl

/-- The tokens of code of parts are the exposed ones. -/
theorem exposed_tokensAll (parts : List Part) (h : AreSound parts) :
    Token.exposed [] (tokensAll parts) = codeTokensAll parts := by
  cases parts with
  | nil => rfl
  | cons part rest =>
    rw [tokensAll, codeTokensAll, exposed_tokens part (tokensAll rest) h.1,
      exposed_tokensAll rest h.2]

end

end Part

end CodeHighlight.Markdown
