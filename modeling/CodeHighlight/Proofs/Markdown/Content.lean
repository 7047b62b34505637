import CodeHighlight.Markdown.Tree
import CodeHighlight.Proofs.Block.Markup

/-!
# The content of code in its markup

The node for code leaves out the line feed at the end of the content, and the element for the node
adds one, unless the node is empty. So the text between the tags of code, with its references
decoded, is the content again, whatever characters it holds. The one exception is a content of a
single empty line, which is written as no line.
-/

namespace CodeHighlight

namespace Markup

/-- The tag opens an element of the name. -/
def Tag.opens (name : Name) : Tag → Bool
  | .opening other _ => other = name
  | .closing _ => false

/-- The text between the tags of an element of the name that holds no other element. -/
def between? (name : Name) : List Part → Option (List Char)
  | first :: second :: rest =>
    if first.tag.opens name && second.tag = .closing name then some first.text
    else between? name (second :: rest)
  | _ => none

/-- The text between the tags of code, as it is written. -/
def codeBetween? (text : List Char) : Option (List Char) := (parts? text).bind (between? .code)

end Markup

/-- Between the tags of code stands the escaped value of the node, and a line feed unless the value
is empty. -/
theorem Node.codeBetween?_markup (node : Node) (h : node.kind = codeKind) :
    Markup.codeBetween? node.markup =
      some (Text.escape .named (codeBody (characters node.value))) := by
  rw [markup_of_kind node h, codeElement_eq, Markup.codeBetween?, Markup.parts?_written]
  · rfl
  · intro p hp
    obtain ⟨q, -, rfl⟩ := List.mem_map.mp hp
    exact q.isPlain_map_escape Text.QuoteSpelling.refers_named

namespace Markdown

/-- The content is nothing, or its last line ends with a line feed. -/
def IsWhole (content : List Char) : Prop := content = [] ∨ content.getLast? = some '\n'

/-- The content that is read again of the markup for it. -/
def kept (content : List Char) : List Char := if content = ['\n'] then [] else content

/-- A line feed that is left out is added again, unless nothing stands before it. -/
theorem codeBody_codeBody (content : List Char) (h : IsWhole content) :
    Node.codeBody (codeBody content) = kept content := by
  rcases h with rfl | h
  · rfl
  · obtain ⟨front, rfl⟩ := List.getLast?_eq_some_iff.mp h
    have hbody : codeBody (front ++ ['\n']) = front := by simp [codeBody]
    rw [hbody, Node.codeBody, kept]
    cases front with
    | nil => rfl
    | cons c front => simp

/-- A content is kept as it is unless it is an empty line. -/
theorem kept_eq_self_iff (content : List Char) : kept content = content ↔ content ≠ ['\n'] := by
  unfold kept
  split <;> simp_all

/-- Two contents are kept alike if they are one, or if each is nothing or an empty line. -/
theorem kept_eq_iff (content other : List Char) : kept content = kept other ↔
    content = other ∨ content ∈ [[], ['\n']] ∧ other ∈ [[], ['\n']] := by
  unfold kept
  split <;> split <;> simp_all [eq_comm]

namespace Token

/-- The node for code has the content as its value, without the line feed at its end. -/
theorem kind_codeNode (token : Token) : token.codeNode.kind = Node.codeKind ∧
    Node.characters token.codeNode.value = codeBody token.content := by
  rw [codeNode]
  split <;> exact ⟨rfl, String.toList_ofList⟩

/-- The markup for code keeps its content. -/
theorem codeBetween?_codeNode (token : Token) (h : IsWhole token.content) :
    Markup.codeBetween? token.codeNode.markup =
      some (Text.escape .named (kept token.content)) := by
  obtain ⟨hkind, hvalue⟩ := kind_codeNode token
  rw [Node.codeBetween?_markup _ hkind, hvalue, codeBody_codeBody token.content h]

/-- The text between the tags of code, decoded, is the content of the token, unless that is one
empty line. Two tokens are written with the same text if and only if their contents are the same, or
neither holds more than one empty line. -/
theorem content_of_markup (token : Token) (hwhole : IsWhole token.content) :
    ∃ body, Markup.codeBetween? token.codeNode.markup = some body ∧
      (Text.decode body = token.content ↔ token.content ≠ ['\n']) ∧
      (token.content = ['\n'] → body = []) ∧
      ∀ other : Token, IsWhole other.content →
        (Markup.codeBetween? other.codeNode.markup = some body ↔
          other.content = token.content ∨
            other.content ∈ [[], ['\n']] ∧ token.content ∈ [[], ['\n']]) := by
  refine ⟨_, codeBetween?_codeNode token hwhole, ?_, ?_, ?_⟩
  · rw [Text.decode_escape Text.QuoteSpelling.refers_named, kept_eq_self_iff]
  · intro hempty
    rw [hempty]
    rfl
  · intro other hother
    rw [codeBetween?_codeNode other hother, Option.some.injEq,
      Text.escape_inj Text.QuoteSpelling.refers_named, kept_eq_iff]

/-- Marks, references and empty lines are read again, and other code is written otherwise. -/
theorem content_of_marked_fence :
    let fence := (BlockToken.fence "html {1}".toList "&lt;\n<b>\n\n".toList).token
    ∃ body, Markup.codeBetween? fence.codeNode.markup = some body ∧
      Text.decode body = "&lt;\n<b>\n\n".toList ∧
      Markup.codeBetween? (BlockToken.indented "<\n<b>\n\n".toList).token.codeNode.markup ≠
        some body := by
  intro fence
  obtain ⟨body, hbody, hdecode, -, hother⟩ := content_of_markup fence (.inr (by decide))
  refine ⟨body, hbody, hdecode.mpr (by decide), ?_⟩
  rw [ne_eq, hother (BlockToken.indented "<\n<b>\n\n".toList).token (.inr (by decide))]
  decide

/-- A fence around an empty line is written as one around nothing, and neither has a line. -/
theorem content_of_empty_line :
    Markup.codeBetween? (BlockToken.fence [] ['\n']).token.codeNode.markup = some [] ∧
      Markup.codeBetween? (BlockToken.fence [] []).token.codeNode.markup = some [] ∧
      Text.decode [] ≠ ['\n'] := by
  have hnone : Text.decode [] = [] := by rw [Text.decode]
  refine ⟨codeBetween?_codeNode (BlockToken.fence [] ['\n']).token (.inr rfl),
    codeBetween?_codeNode (BlockToken.fence [] []).token (.inl rfl), ?_⟩
  rw [hnone]
  decide

end Token

end Markdown

end CodeHighlight
