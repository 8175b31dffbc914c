import DeclaredUi.Text.Pieces

/-! A working directory and what a path leads to from there. A path is walked
name by name; `.` stays, `..` goes up, and every step must start from a
directory. -/

namespace DeclaredUi

inductive ReadFault where
  | missing
  | directory
  | notDirectory
  | nameTooLong
  | denied
  | notText
  | other (message : String)
deriving DecidableEq, Repr

namespace ReadFault

def text : ReadFault → String
  | .missing => "No such file or directory (os error 2)"
  | .directory => "Is a directory (os error 21)"
  | .notDirectory => "Not a directory (os error 20)"
  | .nameTooLong => "File name too long (os error 36)"
  | .denied => "Permission denied (os error 13)"
  | .notText => "stream did not contain valid UTF-8"
  | .other message => message

end ReadFault

/-- A working directory: the files in it and below it, each with its path and
its content. -/
structure Directory where
  files : List (String × String)
deriving Inhabited

namespace Directory

/-- Where a path has led so far. -/
inductive Place where
  /-- The directory that these names lead to from the working directory, the
  innermost name first. -/
  | below (names : List String)
  /-- A directory above the working directory, in which no name is known. -/
  | above
  | file (content : String)
deriving DecidableEq, Repr

/-- The longest name that a directory can hold, in bytes. -/
def longestName : Nat := 255

/-- The longest path that can be walked, in bytes. -/
def longestPath : Nat := 4095

/-- The names on a path, without the pieces that lead nowhere. -/
def namesOf (path : String) : List String :=
  (Pieces.ofText '/' path).filter fun piece => piece != "" && piece != "."

/-- What names lead to from the working directory: a file, or a directory with a
file below it. -/
def find? (directory : Directory) (names : List String) : Option Place :=
  match directory.files.find? fun file => namesOf file.1 == names with
  | some file => some (.file file.2)
  | none =>
    if directory.files.any fun file => names.isPrefixOf (namesOf file.1) then
      some (.below names.reverse)
    else none

def step (directory : Directory) (place : Place) (piece : String) : Except ReadFault Place :=
  match place with
  | .file _ => .error .notDirectory
  | .above =>
    if piece = "" ∨ piece = "." ∨ piece = ".." then .ok .above
    else if longestName < piece.utf8ByteSize then .error .nameTooLong
    else .error .missing
  | .below names =>
    if piece = "" ∨ piece = "." then .ok place
    else if piece = ".." then
      match names with
      | [] => .ok .above
      | _ :: outer => .ok (.below outer)
    else if longestName < piece.utf8ByteSize then .error .nameTooLong
    else
      match directory.find? (piece :: names).reverse with
      | some found => .ok found
      | none => .error .missing

/-- Where a path starts: a leading slash goes to the top. -/
def start (path : String) : Place :=
  if path.toList.head? = some '/' then .above else .below []

def read (directory : Directory) (path : String) : Except ReadFault String :=
  if path.isEmpty then .error .missing
  else if longestPath < path.utf8ByteSize then .error .nameTooLong
  else do
    match ← (Pieces.ofText '/' path).foldlM directory.step (start path) with
    | .file content => return content
    | _ => throw .directory

end Directory

end DeclaredUi
