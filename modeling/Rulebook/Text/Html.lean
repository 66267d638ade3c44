/-!
# Text inside HTML

`escape` writes the six characters that could be markup as character references. `unescape` undoes
exactly those references.
-/

namespace Rulebook.Text.Html

/-- One character inside text or an attribute value. -/
def escapeChar (c : Char) : List Char :=
  if c = '&' then "&amp;".toList
  else if c = '<' then "&lt;".toList
  else if c = '>' then "&gt;".toList
  else if c = '"' then "&quot;".toList
  else if c = '\'' then "&#x27;".toList
  else if c = '/' then "&#x2F;".toList
  else [c]

/-- A text with markup characters written as references. -/
def escape (s : String) : String :=
  String.ofList (s.toList.flatMap escapeChar)

/-- The characters with the six references undone. -/
def unescapeChars : List Char → List Char
  | '&' :: 'a' :: 'm' :: 'p' :: ';' :: rest => '&' :: unescapeChars rest
  | '&' :: 'l' :: 't' :: ';' :: rest => '<' :: unescapeChars rest
  | '&' :: 'g' :: 't' :: ';' :: rest => '>' :: unescapeChars rest
  | '&' :: 'q' :: 'u' :: 'o' :: 't' :: ';' :: rest => '"' :: unescapeChars rest
  | '&' :: '#' :: 'x' :: '2' :: '7' :: ';' :: rest => '\'' :: unescapeChars rest
  | '&' :: '#' :: 'x' :: '2' :: 'F' :: ';' :: rest => '/' :: unescapeChars rest
  | c :: rest => c :: unescapeChars rest
  | [] => []

/-- A text with the six references undone. -/
def unescape (s : String) : String :=
  String.ofList (unescapeChars s.toList)

end Rulebook.Text.Html
