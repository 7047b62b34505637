/-!
# Document trees

A document is a tree of typed nodes. A node with children may carry the markup that opens and
closes it; a leaf carries its content as a value. Code nodes also carry the language and the further
text of the fence that they come from.
-/

namespace CodeHighlight

/-- A node of a document tree. -/
structure Node where
  kind : String
  value : Option String := none
  language : Option String := none
  info : Option String := none
  opening : Option String := none
  closing : Option String := none
  children : Option (List Node) := none
deriving Repr, Inhabited

namespace Node

/-- The kind of code nodes. -/
def codeKind : String := "code"

/-- The kind of nodes that hold finished markup. -/
def htmlKind : String := "html"

/-- The kind of the topmost node. -/
def rootKind : String := "root"

/-- A code node. -/
def code (value : String) (language info : Option String := none) : Node :=
  { kind := codeKind, value := some value, language, info }

/-- A node that holds finished markup. -/
def html (value : String) : Node := { kind := htmlKind, value := some value }

/-- A topmost node. -/
def root (children : List Node) : Node := { kind := rootKind, children := some children }

end Node

end CodeHighlight
