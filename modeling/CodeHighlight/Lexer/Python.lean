import CodeHighlight.Lexer.Basic

/-!
# Lexer for Python

The grammar follows the language's own lexical structure: keywords where a statement may begin,
operators and names in expressions, string literals with their prefixes, escapes and replacement
fields, and the names that `def`, `class`, `import` and `from` introduce.
-/

namespace CodeHighlight.Lexer.Python

open Pattern

/-- Escapes that a string literal knows. -/
inductive Escapes where
  /-- None, as in a raw literal. -/
  | raw
  /-- Doubled braces only, as in a raw literal with replacement fields. -/
  | rawFields
  /-- Those of bytes. -/
  | bytes
  /-- Those of text. -/
  | text
  /-- Those of text, and doubled braces. -/
  | fields

/-- The mark that encloses a literal. -/
inductive Mark where
  | double
  | single

/-- A literal that is open. -/
structure Literal where
  escapes : Escapes
  mark : Mark
  /-- The mark is written three times. -/
  triple : Bool
  /-- Braces hold expressions. -/
  hasFields : Bool

/-- The states of the grammar. -/
inductive State where
  | statement
  /-- Behind a keyword that is one only in its place. -/
  | caseName
  | functionName
  | className
  | importing
  | importingFrom
  /-- Inside a literal. -/
  | literal (literal : Literal)
  /-- Inside the braces of a replacement field. -/
  | field
  /-- Inside brackets in a replacement field. -/
  | fieldBracket

/-- Rules of a state, tried in order. -/
abbrev Rules := List (Rule State)

/-- Keywords that bring names in. -/
def namespaceKeyword : TokenKind := .sub .keyword "Namespace"

/-- Keywords that are values. -/
def constantKeyword : TokenKind := .sub .keyword "Constant"

/-- Names of modules. -/
def namespaceName : TokenKind := .sub .name "Namespace"

/-- Letters before the mark of a literal. -/
def affix : TokenKind := .sub .string "Affix"

/-- Escapes in a literal. -/
def escape : TokenKind := .sub .string "Escape"

/-- Fields in a literal. -/
def interpolation : TokenKind := .sub .string "Interpol"

/-- Literals that are documentation. -/
def docString : TokenKind := .sub .string "Doc"

/-- The kind of a literal's characters. -/
def Mark.kind : Mark → TokenKind
  | .double => .sub .string "Double"
  | .single => .sub .string "Single"

/-- The mark's character. -/
def Mark.char : Mark → Char
  | .double => '"'
  | .single => '\''

/-- A mark as it opens and closes a literal. -/
def Mark.fence (m : Mark) (triple : Bool) : Pattern :=
  times (.char m.char) (if triple then 3 else 1)

/-- A letter of an identifier. -/
def isLetter (c : Char) : Bool := c.isAlpha || c = '_'

/-- An identifier. -/
def identifier : Pattern := one isLetter ++ many (one fun c => isLetter c || c.isDigit)

/-- Blanks, possibly over a line joined by a backslash. -/
def gap : Pattern := many1 (blank <|> (char '\\' ++ blank))

/-- A word that ends at a word boundary. -/
def wholeWord (list : List String) : Pattern := words list ++ wordEdge

/-- Keywords of statements. -/
def keywords : List String := [
  "assert", "async", "await", "break", "continue", "del", "elif", "else", "except", "finally",
  "for", "global", "if", "lambda", "pass", "raise", "nonlocal", "return", "try", "while", "yield",
  "yield from", "as", "with"]

/-- Keywords of expressions. -/
def expressionKeywords : List String :=
  ["async for", "await", "else", "for", "if", "lambda", "yield", "yield from"]

/-- Keywords that are values. -/
def constants : List String := ["True", "False", "None"]

/-- Words that never are names. -/
def reserved : List String := [
  "and", "as", "assert", "async", "await", "break", "class", "continue", "def", "del", "elif",
  "else", "except", "finally", "for", "from", "global", "if", "import", "in", "is", "lambda",
  "nonlocal", "not", "or", "pass", "raise", "return", "try", "while", "with", "yield"]

/-- Built-in functions and types. -/
def builtins : List String := [
  "__import__", "abs", "aiter", "all", "any", "bin", "bool", "bytearray", "breakpoint", "bytes",
  "callable", "chr", "classmethod", "compile", "complex", "delattr", "dict", "dir", "divmod",
  "enumerate", "eval", "filter", "float", "format", "frozendict", "frozenset", "getattr",
  "globals", "hasattr", "hash", "hex", "id", "input", "int", "isinstance", "issubclass", "iter",
  "len", "list", "locals", "map", "max", "memoryview", "min", "next", "object", "oct", "open",
  "ord", "pow", "print", "property", "range", "repr", "reversed", "round", "sentinel", "set",
  "setattr", "slice", "sorted", "staticmethod", "str", "sum", "super", "tuple", "type", "vars",
  "zip"]

/-- Built-in exceptions. -/
def exceptions : List String := [
  "ArithmeticError", "AssertionError", "AttributeError", "BaseException", "BufferError",
  "BytesWarning", "DeprecationWarning", "EOFError", "EnvironmentError", "Exception",
  "FloatingPointError", "FutureWarning", "GeneratorExit", "IOError", "ImportError",
  "ImportWarning", "IndentationError", "IndexError", "KeyError", "KeyboardInterrupt",
  "LookupError", "MemoryError", "NameError", "NotImplementedError", "OSError", "OverflowError",
  "PendingDeprecationWarning", "ReferenceError", "ResourceWarning", "RuntimeError",
  "RuntimeWarning", "StopIteration", "SyntaxError", "SyntaxWarning", "SystemError", "SystemExit",
  "TabError", "TypeError", "UnboundLocalError", "UnicodeDecodeError", "UnicodeEncodeError",
  "UnicodeError", "UnicodeTranslateError", "UnicodeWarning", "UserWarning", "ValueError",
  "VMSError", "Warning", "WindowsError", "ZeroDivisionError", "BlockingIOError",
  "ChildProcessError", "ConnectionError", "BrokenPipeError", "ConnectionAbortedError",
  "ConnectionRefusedError", "ConnectionResetError", "FileExistsError", "FileNotFoundError",
  "InterruptedError", "IsADirectoryError", "NotADirectoryError", "PermissionError",
  "ProcessLookupError", "TimeoutError", "StopAsyncIteration", "ModuleNotFoundError",
  "RecursionError", "EncodingWarning"]

/-- Methods that the language calls. -/
def magicMethods : List String := [
  "__abs__", "__add__", "__aenter__", "__aexit__", "__aiter__", "__and__", "__anext__",
  "__await__", "__bool__", "__bytes__", "__call__", "__complex__", "__contains__", "__del__",
  "__delattr__", "__delete__", "__delitem__", "__dir__", "__divmod__", "__enter__", "__eq__",
  "__exit__", "__float__", "__floordiv__", "__format__", "__ge__", "__get__", "__getattr__",
  "__getattribute__", "__getitem__", "__gt__", "__hash__", "__iadd__", "__iand__",
  "__ifloordiv__", "__ilshift__", "__imatmul__", "__imod__", "__imul__", "__index__", "__init__",
  "__instancecheck__", "__int__", "__invert__", "__ior__", "__ipow__", "__irshift__", "__isub__",
  "__iter__", "__itruediv__", "__ixor__", "__le__", "__len__", "__length_hint__", "__lshift__",
  "__lt__", "__matmul__", "__missing__", "__mod__", "__mul__", "__ne__", "__neg__", "__new__",
  "__next__", "__or__", "__pos__", "__pow__", "__prepare__", "__radd__", "__rand__",
  "__rdivmod__", "__repr__", "__reversed__", "__rfloordiv__", "__rlshift__", "__rmatmul__",
  "__rmod__", "__rmul__", "__ror__", "__round__", "__rpow__", "__rrshift__", "__rshift__",
  "__rsub__", "__rtruediv__", "__rxor__", "__set__", "__setattr__", "__setitem__", "__str__",
  "__sub__", "__subclasscheck__", "__truediv__", "__xor__"]

/-- Attributes that the language sets. -/
def magicAttributes : List String := [
  "__annotations__", "__bases__", "__class__", "__closure__", "__code__", "__defaults__",
  "__dict__", "__doc__", "__file__", "__func__", "__globals__", "__kwdefaults__", "__module__",
  "__mro__", "__name__", "__objclass__", "__qualname__", "__self__", "__slots__", "__weakref__"]

/-- Keywords where a statement may begin. -/
def keywordRules : Rules := [
  .token (wholeWord keywords) .keyword,
  .token (wholeWord constants) constantKeyword]

/-- Keywords inside an expression. -/
def expressionKeywordRules : Rules := [
  .token (wholeWord expressionKeywords) .keyword,
  .token (wholeWord constants) constantKeyword]

/-- `match` and `case` at the beginning of a line, unless what follows makes them names. -/
def caseRules : Rules := [
  .parts [
    (lineStart ++ many (among " \t"), .text),
    (words ["match", "case"] ++ wordEdge ++
      notAhead (many (among " \t") ++
        (among ":,;=^&|@~)]\x7d" <|> (choice (reserved.map Pattern.text) ++ wordEdge))),
      .keyword)] (.push .caseName)]

/-- Built-in names, unless a period stands before them. -/
def builtinRules : Rules := [
  .token (notAfter '.' ++ wholeWord builtins) (.sub .name "Builtin"),
  .token (notAfter '.' ++ wholeWord ["self", "Ellipsis", "NotImplemented", "cls"])
    ["Name", "Builtin", "Pseudo"],
  .token (notAfter '.' ++ wholeWord exceptions) (.sub .name "Exception")]

/-- Methods that the language calls. -/
def magicMethodRules : Rules := [
  .token (wholeWord magicMethods) ["Name", "Function", "Magic"]]

/-- Attributes that the language sets. -/
def magicAttributeRules : Rules := [
  .token (wholeWord magicAttributes) ["Name", "Variable", "Magic"]]

/-- Digits with single underscores between them. -/
def digits : Pattern := digit ++ many (maybe (char '_') ++ digit)

/-- A power of ten. -/
def exponent : Pattern := among "eE" ++ maybe (among "+-") ++ digits

/-- A number in another base. -/
def based (letters : String) (d : Pattern) : Pattern :=
  char '0' ++ among letters ++ many1 (maybe (char '_') ++ d)

/-- Numbers; a fraction or an exponent is tried before a whole number. -/
def numberRules : Rules := [
  .token (((digits ++ char '.' ++ maybe digits) <|> (maybe digits ++ char '.' ++ digits)) ++
    maybe exponent) (.sub .number "Float"),
  .token (digits ++ exponent ++ maybe (char 'j')) (.sub .number "Float"),
  .token (based "oO" (among "01234567")) (.sub .number "Oct"),
  .token (based "bB" (among "01")) (.sub .number "Bin"),
  .token (based "xX" hexDigit) (.sub .number "Hex"),
  .token digits (.sub .number "Integer")]

/-- Decorators and names. -/
def nameRules : Rules := [
  .token (char '@' ++ identifier) (.sub .name "Decorator"),
  .token (char '@') .operator,
  .token identifier .name]

/-- A literal opens with a prefix and its mark. -/
def opening (prefixes : Pattern) (mark : Mark) (triple : Bool) (escapes : Escapes)
    (hasFields : Bool) : Rule State :=
  .parts [(prefixes, affix), (mark.fence triple, mark.kind)]
    (.push (.literal ⟨escapes, mark, triple, hasFields⟩))

/-- The four kinds of marks that follow a prefix. -/
def openings (prefixes : Pattern) (escapes : Escapes) (hasFields : Bool) : Rules := [
  opening prefixes .double true escapes hasFields,
  opening prefixes .single true escapes hasFields,
  opening prefixes .double false escapes hasFields,
  opening prefixes .single false escapes hasFields]

/-- The ways in which a literal opens. -/
def literalRules : Rules :=
  openings ((among "rR" ++ among "fFtT") <|> (among "fFtT" ++ among "rR")) .rawFields true ++
  openings (among "fFtT") .fields true ++
  openings ((among "rR" ++ among "bB") <|> (among "bB" ++ among "rR") <|> among "rR") .raw false ++
  openings (maybe (among "uU")) .text false ++
  openings (among "bB") .bytes false

/-- What may stand in an expression. -/
def expressionRules : Rules :=
  literalRules ++
  [.token (many1 (one fun c => Text.isBlank c && c ≠ '\n')) .text] ++
  numberRules ++
  [.token (words ["!=", "==", "<<", ">>", ":="] <|> among "-~+/*%=<>&^|.") .operator,
    .token (among "]\x7b\x7d:(),;[") .punctuation,
    .token (wholeWord ["in", "is", "and", "or", "not"]) (.sub .operator "Word")] ++
  expressionKeywordRules ++ builtinRules ++ magicMethodRules ++ magicAttributeRules ++ nameRules

/-- A literal that stands alone at the beginning of a line is documentation. -/
def docRule (mark : Mark) : Rule State :=
  .parts [
    (lineStart ++ many blank, .whitespace),
    (between (among "rRuUbB") 0 2, affix),
    (mark.fence true ++ few anything ++ mark.fence true, docString)] .stay

/-- A keyword and the gap behind it. -/
def introduced (word : String) (kind : TokenKind) (state : State) : Rule State :=
  .parts [(Pattern.text word, kind), (gap, .whitespace)] (.push state)

/-- An import that is put off. -/
def lazily (word : String) (state : State) : Rule State :=
  .parts [(lineStart ++ Pattern.text "lazy", namespaceKeyword), (gap, .whitespace),
    (Pattern.text word, namespaceKeyword), (gap, .whitespace)] (.push state)

/-- What may stand outside of literals. -/
def statementRules : Rules :=
  [.token (char '\n') .whitespace,
    docRule .double,
    docRule .single,
    .token (textStart ++ Pattern.text "#!" ++ many1 dot ++ lineEnd) (.sub .comment "Hashbang"),
    .token (char '#' ++ many dot ++ lineEnd) (.sub .comment "Single"),
    .token (Pattern.text "\\\n") .text,
    .token (char '\\') .text] ++
  keywordRules ++ caseRules ++
  [introduced "def" .keyword .functionName,
    introduced "class" .keyword .className,
    lazily "from" .importingFrom,
    lazily "import" .importing,
    introduced "from" namespaceKeyword .importingFrom,
    introduced "import" namespaceKeyword .importing] ++
  expressionRules

/-- The underscore that stands for any value. -/
def caseNameRules : Rules := [
  { pattern := .marked 1 (many1 blank) ++ .marked 2 (many (notAmong "\n_")) ++
      .marked 3 (char '_' ++ wordEdge)
    emission := .parts [.token .whitespace, .nested, .token .keyword]
    move := .stay },
  .otherwise]

/-- The name behind `def`. -/
def functionNameRules : Rules :=
  magicMethodRules ++ [.leave identifier (.sub .name "Function"), .otherwise]

/-- The name behind `class`. -/
def classNameRules : Rules := [.leave identifier (.sub .name "Class")]

/-- The names behind `import`. -/
def importRules : Rules := [
  .parts [(many1 blank, .whitespace), (Pattern.text "as", .keyword), (many1 blank, .whitespace)]
    .stay,
  .token (char '.') namespaceName,
  .token identifier namespaceName,
  .parts [(many blank, .whitespace), (char ',', .operator), (many blank, .whitespace)] .stay,
  .otherwise]

/-- The module behind `from`. -/
def fromRules : Rules := [
  .parts [(many1 blank, .whitespace), (Pattern.text "import" ++ wordEdge, namespaceKeyword)] .pop,
  .token (char '.') namespaceName,
  .leave (Pattern.text "None" ++ wordEdge) constantKeyword,
  .token identifier namespaceName,
  .otherwise]

/-- Conversions behind the exclamation mark of a field. -/
def conversion (letters : String) : Pattern := maybe (char '!' ++ among letters)

/-- Formatting with a percent sign. -/
def percentField : Pattern :=
  char '%' ++ maybe (char '(' ++ many1 wordChar ++ char ')') ++ many (among "-#0 +") ++
  maybe (many1 (one Char.isDigit) <|> char '*') ++
  maybe (char '.' ++ (many1 (one Char.isDigit) <|> char '*')) ++
  maybe (among "hlL") ++ among "EFGXcdefgiorsaux%"

/-- A field in braces of a literal that is formatted later. -/
def braceField : Pattern :=
  char '\x7b' ++
  maybe (many1 wordChar ++
    many ((char '.' ++ many1 wordChar) <|> (char '[' ++ many1 (notAmong "]") ++ char ']'))) ++
  conversion "sra" ++
  maybe (char ':' ++ maybe (maybe dot ++ among "<>=^") ++ maybe (among "-+ ") ++
    maybe (char '#') ++ maybe (char '0') ++ maybe (many1 digit) ++ maybe (char ',') ++
    maybe (char '.' ++ many1 digit) ++ maybe (among "EFGXbcdefgnosx%")) ++
  char '\x7d'

/-- The characters of a literal without fields. -/
def plainBody (kind : TokenKind) : Rules := [
  .token percentField interpolation,
  .token braceField interpolation,
  .token (many1 (notAmong "\\'\"%\x7b\n")) kind,
  .token (among "'\"\\") kind,
  .token (char '%' <|> between (char '\x7b') 1 2) kind]

/-- The characters of a literal with fields. -/
def fieldBody (kind : TokenKind) : Rules := [
  .token (char '\x7d') interpolation,
  .enter (char '\x7b') interpolation .field,
  .token (many1 (notAmong "\\'\"\x7b\x7d\n")) kind,
  .token (among "'\"\\") kind]

/-- Braces that stand for themselves in a literal with fields. -/
def doubledBraces : Rules := [
  .token (Pattern.text "\x7b\x7b") escape,
  .token (Pattern.text "\x7d\x7d") escape]

/-- Escapes of bytes. -/
def byteEscapes : Rules := [
  .token (char '\\' ++ (among "\\abfnrtv\"'" <|> char '\n' <|> (char 'x' ++ times hexDigit 2) <|>
    between (among "01234567") 1 3)) escape]

/-- Escapes of text: those of bytes, and characters by name or code point. -/
def textEscapes : Rules :=
  [.token (char '\\' ++ ((Pattern.text "N\x7b" ++ few dot ++ char '\x7d') <|>
    (char 'u' ++ times hexDigit 4) <|> (char 'U' ++ times hexDigit 8))) escape] ++ byteEscapes

/-- The rules for the escapes of a literal. -/
def Escapes.rules : Escapes → Rules
  | .raw => []
  | .rawFields => doubledBraces
  | .bytes => byteEscapes
  | .text => textEscapes
  | .fields => doubledBraces ++ textEscapes

/-- The rules inside a literal: its escapes, its end, and its characters. -/
def Literal.rules (l : Literal) : Rules :=
  let kind := l.mark.kind
  let body := if l.hasFields then fieldBody kind else plainBody kind
  l.escapes.rules ++ [.leave (l.mark.fence l.triple) kind] ++
  if l.triple then body ++ [.token (char '\n') kind]
  else .token (Pattern.text "\\\\" <|> (char '\\' ++ char l.mark.char) <|> Pattern.text "\\\n")
    escape :: body

/-- The end of an expression in a field, with its conversion. -/
def fieldEnd (last : Char) : Rule State :=
  .leave (maybe (char '=' ++ many blank) ++ conversion "sraf" ++ char last) interpolation

/-- The expression in a replacement field. -/
def fieldRules : Rules :=
  [.enter (among "\x7b([") .punctuation .fieldBracket,
    fieldEnd '\x7d',
    fieldEnd ':',
    .token (many1 blank) .whitespace] ++ expressionRules

/-- What stands inside brackets in a replacement field. -/
def fieldBracketRules : Rules :=
  [.enter (among "\x7b([") .punctuation .fieldBracket,
    .leave (among "])\x7d") .punctuation,
    .token (many1 blank) .whitespace] ++ expressionRules

/-- The rules of each state. -/
def rules : State → Rules
  | .statement => statementRules
  | .caseName => caseNameRules
  | .functionName => functionNameRules
  | .className => classNameRules
  | .importing => importRules
  | .importingFrom => fromRules
  | .literal l => l.rules
  | .field => fieldRules
  | .fieldBracket => fieldBracketRules

/-- The grammar of Python. -/
def grammar : Grammar State := ⟨.statement, rules⟩

end CodeHighlight.Lexer.Python

namespace CodeHighlight.Lexer

/-- The lexer for Python. -/
def python : Lexer :=
  ofGrammar "PythonLexer" "Python"
    ["python", "py", "sage", "python3", "py3", "bazel", "starlark", "pyi"] Python.grammar

end CodeHighlight.Lexer
