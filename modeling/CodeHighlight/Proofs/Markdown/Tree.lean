import CodeHighlight.Proofs.Markdown.Exposed

/-!
# Rows of tokens as trees

A row is refused only if the reading comes to an opening token that nothing closes; what is inside a
part is never refused. Otherwise the nodes are those of parts that make up the row. Code becomes a
node of its own wherever nothing but containers is open around it. The rows that the reader of
blocks makes are regular, so that their trees can be read again.
-/

namespace CodeHighlight

namespace Markdown

namespace Token

/-- What is changed was there before the change. -/
theorem exists_of_map_eq_ok {ε β γ : Type} (f : β → γ) (result : Except ε β) (image : γ)
    (h : result.map f = .ok image) : ∃ value, result = .ok value ∧ f value = image := by
  cases result with
  | error fault => cases h
  | ok value => exact ⟨value, rfl, Except.ok.inj h⟩

/-- A change changes no fault. -/
theorem eq_error_of_map {ε β γ : Type} (f : β → γ) (result : Except ε β) (fault : ε)
    (h : result.map f = .error fault) : result = .error fault := by
  cases result with
  | error other => exact congrArg Except.error (Except.error.inj h)
  | ok value => cases h

variable (render : List Token → List Char)

/-! ## Nodes part by part -/

/-- The node for a part whose inside becomes `children`. -/
def partNode (first : Token) (more : List Token) (children : List Node) : Node :=
  if first.isCode then first.codeNode
  else match first.container? with
    | some kind => containerNode render kind first ((first :: more).getLastD first) children
    | none => leafNode render first (first :: more)

/-- A part is one node. -/
theorem nodes_part (first : Token) (more after : List Token) (children : List Node)
    (hpart : IsPart (first :: more)) (hchildren : nodes render more.dropLast = .ok children) :
    nodes render (first :: more ++ after) =
      (nodes render after).map (partNode render first more children :: ·) := by
  have hfound : part? 0 (first :: (more ++ after)) = some (first :: more, after) :=
    (part?_eq_some_iff 0 _ _ _).mpr ⟨rfl, (isPart_iff _).mp hpart⟩
  have hinner : nodes render (first :: more).tail.dropLast = .ok children := hchildren
  rw [List.cons_append, nodes]
  split
  · next hnone =>
    rw [hfound] at hnone
    cases hnone
  · next hsome =>
    rw [hfound] at hsome
    cases hsome
    dsimp only
    rw [partNode, hinner]
    split
    · cases nodes render after <;> rfl
    · cases first.container? <;> cases nodes render after <;> rfl

/-- A token that opens nothing is one node. -/
theorem nodes_single (token : Token) (rest : List Token) (h : token.nesting ≠ .opens) :
    nodes render (token :: rest) =
      (nodes render rest).map (partNode render token [] [] :: ·) :=
  nodes_part render token [] rest [] (isPart_single token h) (by rw [List.dropLast_nil, nodes])

/-- A token that opens is one node with the token that closes it. -/
theorem nodes_enclosure (first last : Token) (inner after : List Token) (children : List Node)
    (hfirst : first.nesting = .opens) (hlast : last.nesting = .closes) (hinner : Balanced inner)
    (hchildren : nodes render inner = .ok children) :
    nodes render (first :: (inner ++ last :: after)) =
      (nodes render after).map (partNode render first (inner ++ [last]) children :: ·) := by
  have hpart := nodes_part render first (inner ++ [last]) after children
    (isPart_enclosure first last inner hfirst hlast hinner) (by rwa [List.dropLast_concat])
  rwa [List.cons_append, List.append_assoc, List.singleton_append] at hpart

/-- A row whose first token nothing closes is refused. -/
theorem nodes_unclosed (token : Token) (rest : List Token) (htoken : token.nesting = .opens)
    (h : StaysWithin 0 rest) :
    nodes render (token :: rest) = .error (.unbalanced token.kind) := by
  have hnone : part? 0 (token :: rest) = none := by
    refine (part?_eq_none_iff 0 _).mpr fun front hfront hne => ?_
    rcases List.prefix_cons_iff.mp hfront with rfl | ⟨more, rfl, hmore⟩
    · exact (hne rfl).elim
    · have hopen := h more hmore
      rw [depth_cons, htoken, Nesting.step]
      omega
  rw [nodes]
  split
  · rfl
  · next hfound =>
    rw [hnone] at hfound
    cases hfound

/-- A balanced row is never refused. -/
theorem exists_nodes (row : List Token) (h : Balanced row) :
    ∃ children, nodes render row = .ok children := by
  induction row using row_induction with
  | nil => exact ⟨[], by rw [nodes]⟩
  | single token rest htoken ih =>
    obtain ⟨others, hothers⟩ := ih (h.of_cons token rest htoken)
    refine ⟨partNode render token [] [] :: others, ?_⟩
    rw [nodes_single render token rest htoken, hothers]
    rfl
  | enclosure first last inner after hfirst hlast hinner ihInner ihAfter =>
    obtain ⟨children, hchildren⟩ := ihInner hinner
    obtain ⟨others, hothers⟩ := ihAfter
      (Balanced.of_enclosure first last inner after hfirst hlast hinner h)
    refine ⟨partNode render first (inner ++ [last]) children :: others, ?_⟩
    rw [nodes_enclosure render first last inner after children hfirst hlast hinner hchildren,
      hothers]
    rfl
  | unclosed token rest htoken hrest => exact (not_balanced_of_opens token rest htoken hrest h).elim

/-! ## The parts of a tree -/

/-- A token that opens nothing is a part by itself. -/
theorem exists_part_single (token : Token) (h : token.nesting ≠ .opens) : ∃ part : Part,
    part.node render = partNode render token [] [] ∧ part.tokens = [token] ∧ part.IsSound := by
  have hpart := isPart_single token h
  rw [partNode]
  cases hcode : token.isCode with
  | true => exact ⟨.code token [], rfl, rfl, hcode, hpart⟩
  | false =>
    cases hkind : token.container? with
    | none => exact ⟨.leaf token [], rfl, rfl, hcode, hkind, hpart⟩
    | some kind => exact ⟨.bare kind token, rfl, rfl, hkind, h⟩

/-- A token that opens is a part with what it encloses, whose parts are known. -/
theorem exists_part_enclosure (first last : Token) (parts : List Part)
    (hfirst : first.nesting = .opens) (hlast : last.nesting = .closes)
    (hinner : Balanced (Part.tokensAll parts)) (hparts : Part.AreSound parts) : ∃ part : Part,
    part.node render =
        partNode render first (Part.tokensAll parts ++ [last]) (Part.nodeAll render parts) ∧
      part.tokens = first :: (Part.tokensAll parts ++ [last]) ∧ part.IsSound := by
  have hpart := isPart_enclosure first last _ hfirst hlast hinner
  rw [partNode]
  cases hcode : first.isCode with
  | true => exact ⟨.code first _, rfl, rfl, hcode, hpart⟩
  | false =>
    cases hkind : first.container? with
    | none => exact ⟨.leaf first _, rfl, rfl, hcode, hkind, hpart⟩
    | some kind =>
      refine ⟨.container kind first parts last, ?_, rfl, hkind, hfirst, hlast, hinner, hparts⟩
      rw [← List.cons_append, List.getLastD_concat]
      rfl

/-- The nodes are those of sound parts that make up the row. -/
theorem exists_parts (row : List Token) (tree : List Node) (h : nodes render row = .ok tree) :
    ∃ parts : List Part, Part.nodeAll render parts = tree ∧ Part.tokensAll parts = row ∧
      Part.AreSound parts := by
  induction row using row_induction generalizing tree with
  | nil =>
    rw [nodes] at h
    cases h
    exact ⟨[], rfl, rfl, trivial⟩
  | single token rest htoken ih =>
    rw [nodes_single render token rest htoken] at h
    obtain ⟨others, hrest, rfl⟩ := exists_of_map_eq_ok _ _ _ h
    obtain ⟨part, hnode, htokens, hpart⟩ := exists_part_single render token htoken
    obtain ⟨parts, rfl, rfl, hparts⟩ := ih others hrest
    refine ⟨part :: parts, by rw [Part.nodeAll, hnode], ?_, hpart, hparts⟩
    rw [Part.tokensAll, htokens]
    rfl
  | enclosure first last inner after hfirst hlast hinner ihInner ihAfter =>
    obtain ⟨children, hchildren⟩ := exists_nodes render inner hinner
    rw [nodes_enclosure render first last inner after children hfirst hlast hinner hchildren] at h
    obtain ⟨others, hafter, rfl⟩ := exists_of_map_eq_ok _ _ _ h
    obtain ⟨within, rfl, rfl, hwithin⟩ := ihInner children hchildren
    obtain ⟨parts, rfl, rfl, hparts⟩ := ihAfter others hafter
    obtain ⟨part, hnode, htokens, hpart⟩ :=
      exists_part_enclosure render first last within hfirst hlast hinner hwithin
    refine ⟨part :: parts, by rw [Part.nodeAll, hnode], ?_, hpart, hparts⟩
    rw [Part.tokensAll, htokens]
    simp
  | unclosed token rest htoken hrest =>
    rw [nodes_unclosed render token rest htoken hrest] at h
    cases h

/-! ## Refusals -/

/-- A part of a row becomes the first node, whatever follows. -/
theorem nodes_append_of_isPart (part rest : List Token) (h : IsPart part) :
    ∃ node, nodes render (part ++ rest) = (nodes render rest).map (node :: ·) := by
  rcases IsPart.cases part h with ⟨token, rfl, htoken⟩ |
    ⟨first, last, inner, rfl, hfirst, hlast, hinner⟩
  · exact ⟨_, nodes_single render token rest htoken⟩
  · obtain ⟨children, hchildren⟩ := exists_nodes render inner hinner
    refine ⟨partNode render first (inner ++ [last]) children, ?_⟩
    rw [← nodes_enclosure render first last inner rest children hfirst hlast hinner hchildren]
    simp

private theorem exists_unclosed (row : List Token) (fault : TreeFault)
    (h : nodes render row = .error fault) :
    ∃ (front : List (List Token)) (token : Token) (rest : List Token),
      row = front.flatten ++ token :: rest ∧ (∀ part ∈ front, IsPart part) ∧
      (∀ more, more <+: rest → 0 < depth (token :: more)) ∧ fault = .unbalanced token.kind := by
  induction row using row_induction with
  | nil =>
    rw [nodes] at h
    cases h
  | single token rest htoken ih =>
    rw [nodes_single render token rest htoken] at h
    obtain ⟨front, last, behind, rfl, hfront, hlast⟩ := ih (eq_error_of_map _ _ _ h)
    exact ⟨[token] :: front, last, behind, rfl,
      List.forall_mem_cons.mpr ⟨isPart_single token htoken, hfront⟩, hlast⟩
  | enclosure first last inner after hfirst hlast hinner _ ihAfter =>
    -- What is enclosed becomes nodes, so the refusal comes from behind the enclosure.
    obtain ⟨children, hchildren⟩ := exists_nodes render inner hinner
    rw [nodes_enclosure render first last inner after children hfirst hlast hinner hchildren] at h
    obtain ⟨front, token, behind, rfl, hfront, htoken⟩ := ihAfter (eq_error_of_map _ _ _ h)
    exact ⟨(first :: (inner ++ [last])) :: front, token, behind, by simp,
      List.forall_mem_cons.mpr ⟨isPart_enclosure first last inner hfirst hlast hinner, hfront⟩,
      htoken⟩
  | unclosed token rest htoken hrest =>
    rw [nodes_unclosed render token rest htoken hrest] at h
    refine ⟨[], token, rest, rfl, by simp, ?_, (Except.error.inj h).symm⟩
    intro more hmore
    have hopen := hrest more hmore
    rw [depth_cons, htoken, Nesting.step]
    omega

private theorem nodes_of_unclosed (front : List (List Token)) (token : Token) (rest : List Token)
    (hfront : ∀ part ∈ front, IsPart part)
    (hopen : ∀ more, more <+: rest → 0 < depth (token :: more)) :
    nodes render (front.flatten ++ token :: rest) = .error (.unbalanced token.kind) := by
  induction front with
  | nil =>
    have hfirst := hopen [] List.nil_prefix
    rw [depth_cons, depth_nil, Int.add_zero, step_pos_iff] at hfirst
    apply nodes_unclosed render token rest hfirst
    intro more hmore
    have hmore := hopen more hmore
    rw [depth_cons, hfirst, Nesting.step] at hmore
    omega
  | cons part front ih =>
    obtain ⟨node, hnode⟩ := nodes_append_of_isPart render part (front.flatten ++ token :: rest)
      (hfront part List.mem_cons_self)
    rw [List.flatten_cons, List.append_assoc, hnode,
      ih fun p hp => hfront p (List.mem_cons_of_mem _ hp)]
    rfl

/-- A row is refused exactly if behind some parts a token stands that nothing closes. -/
theorem nodes_eq_error_iff (row : List Token) (fault : TreeFault) :
    nodes render row = .error fault ↔
      ∃ (front : List (List Token)) (token : Token) (rest : List Token),
        row = front.flatten ++ token :: rest ∧ (∀ part ∈ front, IsPart part) ∧
        (∀ more, more <+: rest → 0 < depth (token :: more)) ∧
        fault = .unbalanced token.kind := by
  constructor
  · exact exists_unclosed render row fault
  · rintro ⟨front, token, rest, rfl, hfront, hopen, rfl⟩
    exact nodes_of_unclosed render front token rest hfront hopen

/-! ## Rows and their trees -/

/-- How the nodes of a row are made from it, told by the parts of the row. -/
structure Reads (row : List Token) (tree : List Node) (parts : List Part) : Prop where
  /-- Each part is one node. -/
  nodes : Part.nodeAll render parts = tree
  /-- Every token belongs to one part and stands in its place. -/
  tokens : Part.tokensAll parts = row
  sound : Part.AreSound parts
  /-- The exposed tokens of code, and no others, become code, in the order of the row. -/
  code : Part.codeTokensAll parts = exposed [] row
  /-- They are the nodes of code in the tree, if no token stands for a leaf of that kind. -/
  codes : (∀ token ∈ row, token.leafKind ≠ Node.codeKind) →
    Node.codesAll tree = (exposed [] row).map codeNode
  /-- Reading the nodes yields the row, every token once and in its place, if no part begins with
  code that opens or with a container's token that does not. -/
  written : (∀ token ∈ Part.headsAll parts, token.IsRegular) → Part.writtenAll parts = row
  /-- Where no token stands twice, it yields the row in no other case. -/
  regular : row.Nodup → Part.writtenAll parts = row →
    ∀ token ∈ Part.headsAll parts, token.IsRegular

/-- The nodes of a row are read from its parts. -/
theorem exists_reads (row : List Token) (tree : List Node) (h : Token.nodes render row = .ok tree) :
    ∃ parts, Reads render row tree parts := by
  obtain ⟨parts, rfl, rfl, hparts⟩ := exists_parts render row tree h
  refine ⟨parts, ?_⟩
  constructor
  case nodes => rfl
  case tokens => rfl
  case sound => exact hparts
  case code => exact (Part.exposed_tokensAll parts hparts).symm
  case codes =>
    intro hleaf
    rw [Part.exposed_tokensAll parts hparts, Part.codesAll_nodeAll render parts hparts hleaf]
  case written => exact Part.writtenAll_of_regular parts hparts
  case regular => exact Part.regularAll_of_written parts hparts

/-- How a row of tokens becomes a tree, whatever the kinds and the nesting of its tokens are: it is
refused if and only if the reading comes to a token that nothing closes. Otherwise it falls into
parts, each of them a node, and reading the tree yields the row unless the reading came to code that
opens or to a container's token that does not. What a token encloses is never refused. -/
theorem nodes_partition (row : List Token) :
    (∀ fault, nodes render row = .error fault ↔
      ∃ (front : List (List Token)) (token : Token) (rest : List Token),
        row = front.flatten ++ token :: rest ∧ (∀ part ∈ front, IsPart part) ∧
        (∀ more, more <+: rest → 0 < depth (token :: more)) ∧
        fault = .unbalanced token.kind) ∧
    (∀ tree, nodes render row = .ok tree → ∃ parts, Reads render row tree parts) ∧
    ∀ first inner last, IsPart (first :: (inner ++ [last])) →
      ∃ children, nodes render inner = .ok children := by
  refine ⟨nodes_eq_error_iff render row, exists_reads render row, ?_⟩
  intro first inner last hpart
  rcases IsPart.cases _ hpart with ⟨token, hsingle, -⟩ |
    ⟨first', last', between, heq, -, -, hbetween⟩
  · rw [List.cons.injEq] at hsingle
    exact absurd hsingle.2 (by simp)
  · rw [List.cons.injEq] at heq
    rw [List.append_inj_left' heq.2 rfl]
    exact exists_nodes render between hbetween

/-- A quotation with a list, and code in an item of the list. -/
def quotedRow : List Token :=
  [BlockToken.opening .quote, .opening .bullets, .opening .item,
    .fence "py".toList "x\n".toList, .closing .item, .closing .bullets,
    .closing .quote].map BlockToken.token

/-- The code in an item of a quoted list is a node, and the tree can be read again. -/
theorem nodes_partition_quoted : ∃ tree, nodes Token.render quotedRow = .ok tree ∧
    Node.codesAll tree = [.code "x" (some "py")] ∧
    ∃ parts, Part.nodeAll Token.render parts = tree ∧ Part.tokensAll parts = quotedRow := by
  have hwithin : StaysWithin 0 quotedRow := by
    simp [quotedRow, BlockToken.token, staysWithin_cons, staysWithin_nil, Nesting.step]
  obtain ⟨tree, h⟩ := exists_nodes Token.render quotedRow ⟨by decide, hwithin⟩
  obtain ⟨parts, hreads⟩ := (nodes_partition Token.render quotedRow).2.1 tree h
  refine ⟨tree, h, (hreads.codes ?_).trans rfl, parts, hreads.nodes, hreads.tokens⟩
  decide

/-- A quotation's token that opens nothing. -/
def bareRow : List Token := [{ kind := "blockquote_open", nesting := .stands }]

/-- A fence that opens, with a fence inside. -/
def openedRow : List Token :=
  [{ kind := "fence", nesting := .opens }, { kind := "fence", nesting := .stands },
    { kind := "fence", nesting := .closes }]

private theorem not_written (token : Token) (rest : List Token) (hirregular : ¬token.IsRegular)
    (hnodup : (token :: rest).Nodup) (parts : List Part) (hparts : Part.AreSound parts)
    (htokens : Part.tokensAll parts = token :: rest) : Part.writtenAll parts ≠ token :: rest := by
  intro hwritten
  have hregular := Part.regularAll_of_written parts hparts (htokens ▸ hnodup)
    (hwritten.trans htokens.symm)
  exact hirregular (hregular token (Part.mem_headsAll_of_first parts token rest htokens))

/-- The tokens of a quotation that opens nothing and of a fence that opens become nodes that cannot
be read again as the row. -/
theorem nodes_partition_irregular :
    (∃ tree, nodes Token.render bareRow = .ok tree) ∧
    (∀ parts, Part.AreSound parts → Part.tokensAll parts = bareRow →
      Part.writtenAll parts ≠ bareRow) ∧
    (∃ tree, nodes Token.render openedRow = .ok tree) ∧
    ∀ parts, Part.AreSound parts → Part.tokensAll parts = openedRow →
      Part.writtenAll parts ≠ openedRow := by
  have hbare : Balanced bareRow := ⟨by decide, by
    simp [bareRow, staysWithin_cons, staysWithin_nil, Nesting.step]⟩
  have hopened : Balanced openedRow := ⟨by decide, by
    simp [openedRow, staysWithin_cons, staysWithin_nil, Nesting.step]⟩
  refine ⟨exists_nodes _ _ hbare, fun parts => ?_, exists_nodes _ _ hopened, fun parts => ?_⟩
  · exact not_written _ _ (fun h => absurd (h.2 (by decide)) (by decide)) (by simp) parts
  · exact not_written _ _ (fun h => h.1 (by decide) rfl) (by simp) parts

/-- What the reader of blocks makes is regular. -/
theorem isRegular_token (block : BlockToken (List Inline)) : block.token.IsRegular := by
  cases block with
  | opening e =>
    refine ⟨fun hcode => absurd hcode ?_, fun _ => rfl⟩
    cases e <;> simp [BlockToken.token, isCode, Enclosure.name]
  | closing e =>
    refine ⟨fun _ => by simp [BlockToken.token], fun hkind => absurd hkind ?_⟩
    cases e <;> simp [BlockToken.token, container?, containerKinds, Enclosure.name, List.lookup_cons]
  | rule | html | fence | indented | inline =>
    refine ⟨fun _ => by simp [BlockToken.token], fun hkind => absurd hkind ?_⟩
    simp [BlockToken.token, container?, containerKinds, List.lookup_cons]

/-- The tree of a document can be read again. -/
theorem written_of_blocks (blocks : List (BlockToken (List Inline))) (tree : List Node)
    (h : nodes render (blocks.map BlockToken.token) = .ok tree) : ∃ parts,
    Part.nodeAll render parts = tree ∧ Part.writtenAll parts = blocks.map BlockToken.token := by
  obtain ⟨parts, hreads⟩ := exists_reads render _ tree h
  refine ⟨parts, hreads.nodes, hreads.written fun token ht => ?_⟩
  have hmem := Part.mem_tokensAll_of_heads parts token ht
  rw [hreads.tokens] at hmem
  obtain ⟨block, -, rfl⟩ := List.mem_map.mp hmem
  exact isRegular_token block

end Token

end Markdown

end CodeHighlight
