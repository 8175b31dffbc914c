/-! Lines of text. A line ends with its line break, and only the last line of a
text may lack one. -/

namespace DeclaredUi

namespace Lines

/-- The lines of a text, each with its line break. -/
def split : List Char → List (List Char)
  | [] => []
  | c :: rest =>
    if c = '\n' then [c] :: split rest
    else match split rest with
      | [] => [[c]]
      | line :: lines => (c :: line) :: lines

def ofText (text : String) : List String := (split text.toList).map String.ofList

/-- A line with a line break at its end: the one it has, or a new one. -/
def terminated (line : String) : String :=
  if line.toList.getLast? = some '\n' then line else line ++ "\n"

theorem flatten_split (text : List Char) : (split text).flatten = text := by
  induction text with
  | nil => rfl
  | cons c rest ih =>
    simp only [split]
    split
    · simp [ih]
    · split
      · rename_i h
        rw [h] at ih
        simp only [List.flatten_nil] at ih
        simp [← ih]
      · rename_i h
        rw [h] at ih
        simp only [List.flatten_cons] at ih ⊢
        simp [ih]

end Lines

end DeclaredUi
