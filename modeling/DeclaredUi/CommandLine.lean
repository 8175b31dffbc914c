import DeclaredUi.Directory
import DeclaredUi.Reference.Registry
import DeclaredUi.Ui.Basic

/-! The command line: renders a declaration from one file against an environment
from another. Files are reached through a function and so are the documents in
them, so what is printed follows from the arguments, the files and the reader of
documents alone. Which texts are documents is up to the reader. -/

namespace DeclaredUi

namespace CommandLine

/-- Reads the document that a text holds, or says what is wrong with the text. -/
abbrev DocumentReader := String → Except String Json

inductive Trouble where
  | unreadable (path : String) (fault : ReadFault)
  | malformed (path : String) (fault : String)
  | stopped (stop : Stop)
deriving DecidableEq, Repr

structure Report where
  exitCode : Nat
  stdout : String
  stderr : String
deriving DecidableEq, Repr

/-- The lines of a text with a line break after each. -/
def printed (lines : List String) : String := String.join (lines.map (· ++ "\n"))

def noEscapeFlag : String := "--no-escape"

def usage : List String :=
  ["Usage: exclaim-render [--no-escape] <ui.json|ui.yaml> [env.json|env.yaml]",
   "",
   "Examples:",
   "  exclaim-render page.yaml",
   "  exclaim-render page.json data.json",
   "  RUST_LOG=exclaim=debug exclaim-render --no-escape page.yaml data.yaml"]

/-- The lines about what went wrong. A rendering that nests too deeply has no
line of its own. -/
def Trouble.lines : Trouble → List String
  | .unreadable path fault => ["  Failed to read " ++ path ++ ": " ++ fault.text]
  | .malformed path fault => ["  Failed to parse " ++ path ++ ": " ++ fault]
  | .stopped (.error (.configuration fault)) =>
    ["  Configuration error:", "    " ++ fault.message]
  | .stopped (.error (.rendering element message)) =>
    ["  Rendering error in '" ++ element ++ "':", "    " ++ message]
  | .stopped (.error (.internal message)) => ["  " ++ message]
  | .stopped (.panic message) => ["  " ++ message]
  | .stopped .tooDeep => []

def start (escapeHtml : Bool) : Ui where
  plugins := Reference.plugins
  registry := Reference.registry
  options := ⟨escapeHtml⟩

def report (page : String) : Except Trouble String → Report
  | .ok text => ⟨0, printed [text], ""⟩
  | .error trouble =>
    ⟨1, "", printed (("✗ " ++ page ++ " could not be rendered:") :: trouble.lines)⟩

section

variable (read : String → Except ReadFault String) (reader : DocumentReader)

def readDocument (path : String) : Except Trouble Json := do
  let content ← (read path).mapError (Trouble.unreadable path)
  (reader content).mapError (Trouble.malformed path)

/-- The environment in a file, `null` without a file. -/
def readEnv : Option String → Except Trouble Value
  | some path => (readDocument read reader path).map Value.ofJson
  | none => .ok .null

def renderFiles (limit : Nat) (escapeHtml : Bool) (page : String) (data : Option String) :
    Except Trouble String := do
  let declaration ← readDocument read reader page
  let env ← readEnv read reader data
  let (ui, parsed) := (start escapeHtml).parse declaration
  let _ ← parsed.mapError fun error => Trouble.stopped (.error error)
  let rendered ← (ui.render limit env).mapError Trouble.stopped
  return rendered.text

/-- Runs the command line. The arguments are texts; where one is not, the program
stops before it gets here. The flag may stand anywhere; of several, the first
counts and the others are taken for files. -/
def run (limit : Nat) (args : List String) : Report :=
  let render := renderFiles read reader limit (!args.contains noEscapeFlag)
  match args.erase noEscapeFlag with
  | [page] => report page (render page none)
  | [page, data] => report page (render page (some data))
  | _ => ⟨1, "", printed usage⟩

end

end CommandLine

end DeclaredUi
