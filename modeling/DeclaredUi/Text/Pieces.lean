/-! Texts cut at a character, such as paths at their slashes. -/

namespace DeclaredUi

namespace Pieces

/-- The pieces of a text between its separators; there is one more than there
are separators. -/
def ofText (separator : Char) (text : String) : List String :=
  (text.toList.splitOn separator).map String.ofList

end Pieces

end DeclaredUi
