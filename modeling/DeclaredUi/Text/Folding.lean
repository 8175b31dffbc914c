/-! Line separators inside a text that is meant as one line. A separator takes
the blanks around it away; a lone next line (U+0085) is read as one blank, and
of several separators in a row a leading next line is dropped. -/

namespace DeclaredUi

namespace Folding

/-- Next line, line separator and paragraph separator. -/
def isSeparator (c : Char) : Bool :=
  c == '\u0085' || c == '\u2028' || c == '\u2029'

/-- A next line that is kept is a line break. -/
def kept (c : Char) : Char := if c = '\u0085' then '\n' else c

/-- What a run of separators is read as. -/
def joined : List Char → List Char
  | [] => []
  | first :: rest =>
    if first = '\u0085' then if rest.isEmpty then [' '] else rest.map kept
    else first :: rest.map kept

/-- What blanks, or the separators among them in reverse, are read as. -/
def gap (blanks : Nat) (separators : List Char) : List Char :=
  if separators.isEmpty then List.replicate blanks ' ' else joined separators.reverse

/-- Folds a text after blanks and separators that are read but not yet written. -/
def foldAfter (blanks : Nat) (separators : List Char) : List Char → List Char
  | [] => gap blanks separators
  | c :: rest =>
    if isSeparator c then foldAfter blanks (c :: separators) rest
    else if c = ' ' then foldAfter (blanks + 1) separators rest
    else gap blanks separators ++ c :: foldAfter 0 [] rest

def fold (text : List Char) : List Char := foldAfter 0 [] text

end Folding

end DeclaredUi
