/-!
# Text inside markup

Text that stands inside markup writes the ampersand, the angle brackets and, where the place asks
for it, the quotation marks as character references. The spelling of a quotation mark depends on
who writes the markup.
-/

namespace CodeHighlight.Text

/-- How the quotation marks are written; an empty spelling leaves the mark as it is. -/
structure QuoteSpelling where
  double : String
  single : String
deriving Repr, DecidableEq

/-- Decimal references for both marks, as in the markup of a highlighted block. -/
def QuoteSpelling.decimal : QuoteSpelling := ⟨"&#34;", "&#39;"⟩

/-- A name for the double mark and a hexadecimal reference for the single one, as in a plain code
block. -/
def QuoteSpelling.named : QuoteSpelling := ⟨"&quot;", "&#x27;"⟩

/-- A name for the double mark only, as in rendered prose. -/
def QuoteSpelling.doubleOnly : QuoteSpelling := ⟨"&quot;", ""⟩

/-- One character as it is written inside markup. -/
def escapeChar (spelling : QuoteSpelling) (c : Char) : List Char :=
  if c = '&' then "&amp;".toList
  else if c = '<' then "&lt;".toList
  else if c = '>' then "&gt;".toList
  else if c = '"' && spelling.double ≠ "" then spelling.double.toList
  else if c = '\'' && spelling.single ≠ "" then spelling.single.toList
  else [c]

/-- A text as it is written inside markup. -/
def escape (spelling : QuoteSpelling) (text : List Char) : List Char :=
  text.flatMap (escapeChar spelling)

/-- A string as it is written inside markup. -/
def escaped (spelling : QuoteSpelling) (text : String) : String :=
  String.ofList (escape spelling text.toList)

end CodeHighlight.Text
