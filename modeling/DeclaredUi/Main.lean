import DeclaredUi.CommandLine
import DeclaredUi.Json.Reader

/-! The program: reads the files that the arguments name, takes the documents in
them for JSON, and prints what the command line reports. -/

namespace DeclaredUi.CommandLine

/-- The nesting of components that the program goes along with. -/
def nestingLimit : Nat := 10000

/-- What is known of a file after an attempt to read it. A path through a file
fails when it is opened, a directory only when it is read. -/
def outcomeOf : Except IO.Error String → Except ReadFault String
  | .ok content => .ok content
  | .error (.noFileOrDirectory ..) => .error .missing
  | .error (.inappropriateType none ..) => .error .directory
  | .error (.inappropriateType (some _) ..) => .error .notDirectory
  | .error (.invalidArgument (some _) _ "name too long") => .error .nameTooLong
  | .error (.permissionDenied ..) => .error .denied
  | .error (.userError _) => .error .notText
  | .error fault => .error (.other (toString fault))

def readFiles : List String → IO (List (String × Except ReadFault String))
  | [] => return []
  | path :: rest => do
    let found := outcomeOf (← (IO.FS.readFile path).toBaseIO)
    return (path, found) :: (← readFiles rest)

/-- The document in a file. Anything but JSON is refused in the same words. -/
def documentOf (content : String) : Except String Json :=
  match Json.read? .file content with
  | some document => .ok document
  | none => .error "not a document"

def execute (args : List String) : IO UInt32 := do
  let files ← readFiles (args.erase noEscapeFlag)
  let read := fun path => (files.lookup path).getD (.error .missing)
  let report := run read documentOf nestingLimit args
  IO.print report.stdout
  IO.eprint report.stderr
  return report.exitCode.toUInt32

end DeclaredUi.CommandLine

def main (args : List String) : IO UInt32 := DeclaredUi.CommandLine.execute args
