/-! Markup and plain text. Escaping replaces the five characters that markup
gives a meaning; unescaping puts them back and leaves every other use of an
ampersand alone. -/

namespace DeclaredUi

namespace Html

/-- How a character of plain text is written in markup. -/
def escapeChar (c : Char) : List Char :=
  if c = '&' then ['&', 'a', 'm', 'p', ';']
  else if c = '<' then ['&', 'l', 't', ';']
  else if c = '>' then ['&', 'g', 't', ';']
  else if c = '"' then ['&', 'q', 'u', 'o', 't', ';']
  else if c = '\'' then ['&', '#', '3', '9', ';']
  else [c]

/-- Markup that shows the given plain text. -/
def escape (text : String) : String :=
  String.ofList (text.toList.flatMap escapeChar)

/-- Reads the entities of the five characters, the apostrophe also by its
hexadecimal number. -/
def unescapeChars : List Char → List Char
  | '&' :: 'a' :: 'm' :: 'p' :: ';' :: rest => '&' :: unescapeChars rest
  | '&' :: 'l' :: 't' :: ';' :: rest => '<' :: unescapeChars rest
  | '&' :: 'g' :: 't' :: ';' :: rest => '>' :: unescapeChars rest
  | '&' :: 'q' :: 'u' :: 'o' :: 't' :: ';' :: rest => '"' :: unescapeChars rest
  | '&' :: '#' :: '3' :: '9' :: ';' :: rest => '\'' :: unescapeChars rest
  | '&' :: '#' :: 'x' :: '2' :: '7' :: ';' :: rest => '\'' :: unescapeChars rest
  | c :: rest => c :: unescapeChars rest
  | [] => []

/-- The plain text that markup without tags shows. -/
def unescape (text : String) : String :=
  String.ofList (unescapeChars text.toList)

@[simp] theorem toList_escape (text : String) :
    (escape text).toList = text.toList.flatMap escapeChar := by
  simp [escape]

@[simp] theorem toList_unescape (text : String) :
    (unescape text).toList = unescapeChars text.toList := by
  simp [unescape]

theorem escape_append (a b : String) : escape (a ++ b) = escape a ++ escape b := by
  simp [escape]

theorem unescapeChars_cons {c : Char} (plain : c ≠ '&') (rest : List Char) :
    unescapeChars (c :: rest) = c :: unescapeChars rest := by
  rw [unescapeChars.eq_def]
  split <;> simp_all

end Html

end DeclaredUi
