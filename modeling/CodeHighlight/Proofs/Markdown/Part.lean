import CodeHighlight.Markdown.Tree
import CodeHighlight.Proofs.Markdown.Row

/-!
# Parts of a row and their nodes

A row of tokens is read as parts, some of them with parts inside, and every part becomes one node,
whose kind the first token of the part decides. Reading the nodes again yields the tokens of the
parts, every token once and in its place, as long as code opens nothing and containers do open.
Otherwise code hides the tokens behind it, and a container's token stands for its end as well.
-/

namespace CodeHighlight

namespace Node

mutual

/-- The nodes of code in a tree, the outer ones and the earlier ones first. -/
def codes : Node → List Node
  | ⟨kind, value, language, info, opening, closing, children⟩ =>
    (if kind = codeKind then [⟨kind, value, language, info, opening, closing, children⟩] else []) ++
      match children with
      | some nodes => codesAll nodes
      | none => []

/-- The nodes of code in trees one after the other. -/
def codesAll : List Node → List Node
  | [] => []
  | node :: rest => codes node ++ codesAll rest

end

end Node

namespace Markdown

namespace Token

/-- Code opens nothing, and containers open. -/
def IsRegular (token : Token) : Prop :=
  (token.isCode = true → token.nesting ≠ .opens) ∧
    (token.container?.isSome = true → token.nesting = .opens)

/-- Code is no container. -/
theorem container?_of_isCode (token : Token) (h : token.isCode = true) :
    token.container? = none := by
  simp only [isCode, Bool.or_eq_true, decide_eq_true_eq] at h
  rw [container?]
  rcases h with h | h
  · rw [h]
    decide
  · rw [h]
    decide

/-- No container is kept as code. -/
theorem container?_ne_codeKind (token : Token) : token.container? ≠ some Node.codeKind := by
  intro h
  obtain ⟨front, back, hkinds, -⟩ := List.lookup_eq_some_iff.mp h
  have hmem : (token.kind, Node.codeKind) ∈ containerKinds := by
    rw [hkinds]
    exact List.mem_append_right _ List.mem_cons_self
  have hkind : Node.codeKind ∈ containerKinds.map Prod.snd :=
    List.mem_map_of_mem (f := Prod.snd) hmem
  exact absurd hkind (by decide)

end Token

/-- A part of a row with the parts that it encloses. -/
inductive Part where
  /-- Code; tokens behind it are skipped if it opens. -/
  | code (token : Token) (skipped : List Token)
  /-- Tokens that are kept as finished markup. -/
  | leaf (first : Token) (rest : List Token)
  /-- A container. -/
  | container (kind : String) (first : Token) (parts : List Part) (last : Token)
  /-- A container's token that opens nothing. -/
  | bare (kind : String) (token : Token)

namespace Part

mutual

/-- The tokens of a part in their order. -/
def tokens : Part → List Token
  | code token skipped => token :: skipped
  | leaf first rest => first :: rest
  | container _ first parts last => first :: (tokensAll parts ++ [last])
  | bare _ token => [token]

/-- The tokens of parts one after the other. -/
def tokensAll : List Part → List Token
  | [] => []
  | part :: rest => tokens part ++ tokensAll rest

end

mutual

/-- What the node of a part is made from: code from its token, a container from its first token, its
children and its last token, a leaf from all of its tokens. -/
def written : Part → List Token
  | code token _ => [token]
  | leaf first rest => first :: rest
  | container _ first parts last => first :: (writtenAll parts ++ [last])
  | bare _ token => [token, token]

/-- What the nodes of parts are made from. -/
def writtenAll : List Part → List Token
  | [] => []
  | part :: rest => written part ++ writtenAll rest

end

mutual

/-- The tokens with which a part and the parts in it begin. -/
def heads : Part → List Token
  | code token _ => [token]
  | leaf first _ => [first]
  | container _ first parts _ => first :: headsAll parts
  | bare _ token => [token]

/-- The tokens with which parts and the parts in them begin. -/
def headsAll : List Part → List Token
  | [] => []
  | part :: rest => heads part ++ headsAll rest

end

mutual

/-- The tokens that become nodes of code. -/
def codeTokens : Part → List Token
  | code token _ => [token]
  | container _ _ parts _ => codeTokensAll parts
  | leaf _ _ | bare _ _ => []

/-- The tokens of parts that become nodes of code. -/
def codeTokensAll : List Part → List Token
  | [] => []
  | part :: rest => codeTokens part ++ codeTokensAll rest

end

section

variable (render : List Token → List Char)

mutual

/-- The node for a part. -/
def node : Part → Node
  | code token _ => token.codeNode
  | leaf first rest => Token.leafNode render first (first :: rest)
  | container kind first parts last => Token.containerNode render kind first last (nodeAll parts)
  | bare kind token => Token.containerNode render kind token token []

/-- The nodes for parts one after the other. -/
def nodeAll : List Part → List Node
  | [] => []
  | part :: rest => node part :: nodeAll rest

end

end

mutual

/-- A part is what its first token says, and ends where the row does not go deeper any more. -/
def IsSound : Part → Prop
  | code token skipped => token.isCode = true ∧ Token.IsPart (token :: skipped)
  | leaf first rest =>
    first.isCode = false ∧ first.container? = none ∧ Token.IsPart (first :: rest)
  | container kind first parts last =>
    first.container? = some kind ∧ first.nesting = .opens ∧ last.nesting = .closes ∧
      Token.Balanced (tokensAll parts) ∧ AreSound parts
  | bare kind token => token.container? = some kind ∧ token.nesting ≠ .opens

/-- All of the parts are sound. -/
def AreSound : List Part → Prop
  | [] => True
  | part :: rest => IsSound part ∧ AreSound rest

end

/-! ## Reading the tree again -/

private theorem skipped_eq_nil (token : Token) (skipped : List Token)
    (h : Token.IsPart (token :: skipped)) (hopens : token.nesting ≠ .opens) : skipped = [] := by
  rcases Token.IsPart.cases _ h with ⟨only, hpart, -⟩ | ⟨first, last, inner, hpart, hfirst, -⟩
  · exact (List.cons.inj hpart).2
  · exact (hopens ((List.cons.inj hpart).1 ▸ hfirst)).elim

mutual

/-- A part whose heads are regular is written as it is read. -/
theorem written_of_regular (part : Part) (hs : part.IsSound)
    (h : ∀ token ∈ part.heads, token.IsRegular) : part.written = part.tokens := by
  cases part with
  | code token skipped =>
    have hopens := (h token List.mem_cons_self).1 hs.1
    rw [written, tokens, skipped_eq_nil token skipped hs.2 hopens]
  | leaf first rest => rfl
  | container kind first parts last =>
    rw [written, tokens, writtenAll_of_regular parts hs.2.2.2.2 fun token ht =>
      h token (List.mem_cons_of_mem _ ht)]
  | bare kind token =>
    have hopens := (h token List.mem_cons_self).2 (Option.isSome_iff_exists.mpr ⟨kind, hs.1⟩)
    exact (hs.2 hopens).elim

/-- Parts whose heads are regular are written as they are read. -/
theorem writtenAll_of_regular (parts : List Part) (hs : AreSound parts)
    (h : ∀ token ∈ headsAll parts, token.IsRegular) : writtenAll parts = tokensAll parts := by
  cases parts with
  | nil => rfl
  | cons part rest =>
    rw [writtenAll, tokensAll,
      written_of_regular part hs.1 fun token ht => h token (List.mem_append_left _ ht),
      writtenAll_of_regular rest hs.2 fun token ht => h token (List.mem_append_right _ ht)]

end

mutual

/-- Only tokens of a part are written for it. -/
theorem mem_tokens_of_written (part : Part) (token : Token) (h : token ∈ part.written) :
    token ∈ part.tokens := by
  cases part with
  | code first skipped => exact List.mem_singleton.mp h ▸ List.mem_cons_self
  | leaf first rest => exact h
  | container kind first parts last =>
    simp only [written, List.mem_cons, List.mem_append, List.not_mem_nil, or_false] at h
    simp only [tokens, List.mem_cons, List.mem_append, List.not_mem_nil, or_false]
    exact h.imp_right (Or.imp_left (mem_tokensAll_of_written parts token))
  | bare kind first => simpa [written, tokens] using h

/-- Only tokens of parts are written for them. -/
theorem mem_tokensAll_of_written (parts : List Part) (token : Token)
    (h : token ∈ writtenAll parts) : token ∈ tokensAll parts := by
  cases parts with
  | nil => exact h
  | cons part rest =>
    rw [writtenAll, List.mem_append] at h
    rw [tokensAll, List.mem_append]
    exact h.imp (mem_tokens_of_written part token) (mem_tokensAll_of_written rest token)

end

/-- Where no token stands twice, rows with the same tokens are the same in both of their parts. -/
theorem append_inj_of_nodup {α : Type} (front back front' back' : List α)
    (hnodup : (front ++ back).Nodup) (hfront : ∀ x ∈ front', x ∈ front)
    (hback : ∀ x ∈ back', x ∈ back) (h : front' ++ back' = front ++ back) :
    front' = front ∧ back' = back := by
  have happart := (List.nodup_append.mp hnodup).2.2
  rcases List.append_eq_append_iff.mp h with ⟨more, hmore, hrest⟩ | ⟨more, hmore, hrest⟩
  · -- What `front` has besides would be in both halves.
    cases more with
    | nil => exact ⟨by simpa using hmore.symm, by simpa using hrest⟩
    | cons x more =>
      have hx : x ∈ front := by
        rw [hmore]
        exact List.mem_append_right _ List.mem_cons_self
      have hx' : x ∈ back := hback x (hrest ▸ List.mem_cons_self)
      exact (happart x hx x hx' rfl).elim
  · cases more with
    | nil => exact ⟨by simpa using hmore, by simpa using hrest.symm⟩
    | cons x more =>
      have hx : x ∈ front := hfront x (hmore ▸ List.mem_append_right _ List.mem_cons_self)
      have hx' : x ∈ back := by
        rw [hrest]
        exact List.mem_cons_self
      exact (happart x hx x hx' rfl).elim

mutual

/-- Where no token stands twice, a part that is written as it is read has regular heads. -/
theorem regular_of_written (part : Part) (hs : part.IsSound) (hnodup : part.tokens.Nodup)
    (h : part.written = part.tokens) : ∀ token ∈ part.heads, token.IsRegular := by
  intro token ht
  cases part with
  | code first skipped =>
    obtain rfl := List.mem_singleton.mp ht
    rw [written, tokens, List.cons.injEq] at h
    refine ⟨fun _ hopens => ?_, fun hkind => ?_⟩
    · have hle := hs.2.depth_le
      rw [← h.2, Token.depth_cons, Token.depth_nil, hopens, Nesting.step] at hle
      omega
    · rw [Token.container?_of_isCode token hs.1] at hkind
      cases hkind
  | leaf first rest =>
    obtain rfl := List.mem_singleton.mp ht
    refine ⟨fun hcode => ?_, fun hkind => ?_⟩
    · rw [hs.1] at hcode
      cases hcode
    · rw [hs.2.1] at hkind
      cases hkind
  | container kind first parts last =>
    rw [written, tokens, List.cons.injEq, List.append_left_inj] at h
    rcases List.mem_cons.mp ht with rfl | ht
    · refine ⟨fun hcode => ?_, fun _ => hs.2.1⟩
      have hkind := hs.1
      rw [Token.container?_of_isCode token hcode] at hkind
      cases hkind
    · rw [tokens, List.nodup_cons, List.nodup_append] at hnodup
      exact regularAll_of_written parts hs.2.2.2.2 hnodup.2.1 h.2 token ht
  | bare kind first =>
    rw [written, tokens, List.cons.injEq] at h
    cases h.2

/-- Where no token stands twice, parts that are written as they are read have regular heads. -/
theorem regularAll_of_written (parts : List Part) (hs : AreSound parts)
    (hnodup : (tokensAll parts).Nodup) (h : writtenAll parts = tokensAll parts) :
    ∀ token ∈ headsAll parts, token.IsRegular := by
  intro token ht
  cases parts with
  | nil => cases ht
  | cons part rest =>
    rw [writtenAll, tokensAll] at h
    rw [tokensAll] at hnodup
    obtain ⟨hpart, hrest⟩ := append_inj_of_nodup _ _ _ _ hnodup
      (mem_tokens_of_written part) (mem_tokensAll_of_written rest) h
    have hsplit := List.nodup_append.mp hnodup
    rcases List.mem_append.mp ht with ht | ht
    · exact regular_of_written part hs.1 hsplit.1 hpart token ht
    · exact regularAll_of_written rest hs.2 hsplit.2.1 hrest token ht

end

mutual

/-- A part begins with one of its tokens. -/
theorem mem_tokens_of_heads (part : Part) (token : Token) (h : token ∈ part.heads) :
    token ∈ part.tokens := by
  cases part with
  | code first skipped => exact List.mem_singleton.mp h ▸ List.mem_cons_self
  | leaf first rest => exact List.mem_singleton.mp h ▸ List.mem_cons_self
  | container kind first parts last =>
    rcases List.mem_cons.mp h with rfl | h
    · exact List.mem_cons_self
    · exact List.mem_cons_of_mem _ (List.mem_append_left _ (mem_tokensAll_of_heads parts token h))
  | bare kind first => exact h

/-- Parts begin with some of their tokens. -/
theorem mem_tokensAll_of_heads (parts : List Part) (token : Token) (h : token ∈ headsAll parts) :
    token ∈ tokensAll parts := by
  cases parts with
  | nil => exact h
  | cons part rest =>
    rw [headsAll, List.mem_append] at h
    rw [tokensAll, List.mem_append]
    exact h.imp (mem_tokens_of_heads part token) (mem_tokensAll_of_heads rest token)

end

/-- The first token of a row begins one of its parts. -/
theorem mem_headsAll_of_first (parts : List Part) (token : Token) (rest : List Token)
    (h : tokensAll parts = token :: rest) : token ∈ headsAll parts := by
  cases parts with
  | nil => cases h
  | cons part more =>
    apply List.mem_append_left
    cases part <;>
      · obtain ⟨rfl, -⟩ := List.cons.inj h
        exact List.mem_cons_self

/-! ## Nodes of code -/

mutual

/-- The nodes of code in the node of a part are those of its tokens of code, if no leaf is kept as
code. -/
theorem codes_node (render : List Token → List Char) (part : Part) (hs : part.IsSound)
    (h : ∀ token ∈ part.tokens, token.leafKind ≠ Node.codeKind) :
    (part.node render).codes = part.codeTokens.map Token.codeNode := by
  cases part with
  | code token skipped =>
    rw [node, codeTokens, List.map_singleton, Token.codeNode]
    split <;> rfl
  | leaf first rest =>
    rw [node, codeTokens, Token.leafNode, Node.codes, if_neg (h first List.mem_cons_self)]
    rfl
  | container kind first parts last =>
    have hkind : kind ≠ Node.codeKind := fun he =>
      first.container?_ne_codeKind (he ▸ hs.1)
    rw [node, codeTokens, Token.containerNode, Node.codes, if_neg hkind, List.nil_append]
    exact codesAll_nodeAll render parts hs.2.2.2.2 fun token ht =>
      h token (List.mem_cons_of_mem _ (List.mem_append_left _ ht))
  | bare kind token =>
    have hkind : kind ≠ Node.codeKind := fun he =>
      token.container?_ne_codeKind (he ▸ hs.1)
    rw [node, codeTokens, Token.containerNode, Node.codes, if_neg hkind]
    rfl

/-- The nodes of code in the nodes of parts are those of their tokens of code, if no leaf is kept as
code. -/
theorem codesAll_nodeAll (render : List Token → List Char) (parts : List Part)
    (hs : AreSound parts) (h : ∀ token ∈ tokensAll parts, token.leafKind ≠ Node.codeKind) :
    Node.codesAll (nodeAll render parts) = (codeTokensAll parts).map Token.codeNode := by
  cases parts with
  | nil => rfl
  | cons part rest =>
    rw [nodeAll, Node.codesAll, codeTokensAll, List.map_append,
      codes_node render part hs.1 fun token ht => h token (List.mem_append_left _ ht),
      codesAll_nodeAll render rest hs.2 fun token ht => h token (List.mem_append_right _ ht)]

end

end Part

end Markdown

end CodeHighlight
