import CodeHighlight.Proofs.Yaml.Node
import CodeHighlight.Proofs.Yaml.Token
import CodeHighlight.Proofs.Yaml.Value
import CodeHighlight.Yaml

/-!
# Texts that are not loaded

A text that is not loaded is malformed, or it has a form and no value. The latter shows where an
escape or the number of a version cannot be read, or in a node of the document.
-/

namespace CodeHighlight.Yaml

/-- A fault raises no failure if and only if the text is malformed. -/
theorem Fault.failure?_eq_none_iff (fault : Fault) :
    fault.failure? = none ↔ fault = .malformed := by
  cases fault <;> simp [Fault.failure?]

/-- The text has a form and no value for this fault: its tokens break off lexically, or its document
has a node that cannot be read. -/
def IsValueless (text : List Char) (fault : Fault) : Prop :=
  (.broken fault ∈ Token.ofText text ∧ fault.IsLexical) ∨
  ∃ document, Document.ofTokens (Token.ofText text) = .ok (some document) ∧
    ValueReader.HasFault document.nodes fault

/-- A text that is not loaded is malformed, or has a form and no value. -/
theorem load_error (text : List Char) (fault : Fault) (h : load text = .error fault)
    (hfault : fault ≠ .malformed) : IsValueless text fault := by
  unfold load at h
  split at h
  · cases h
    exact absurd rfl hfault
  · cases hdocument : Document.ofTokens (Token.ofText text) with
    | error said =>
      rw [hdocument] at h
      cases h
      have hbroken := Document.ofTokens_error _ fault hdocument hfault
      exact Or.inl ⟨hbroken, Token.ofText_broken text fault hbroken⟩
    | ok found =>
      rw [hdocument] at h
      cases found with
      | none => cases h
      | some document =>
        exact Or.inr ⟨document, hdocument, Value.ofDocument_error document fault h hfault⟩

end CodeHighlight.Yaml
