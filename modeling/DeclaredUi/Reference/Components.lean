import DeclaredUi.Plugin.Basic
import DeclaredUi.Text.Lines
import DeclaredUi.Value.Text

/-! The reference components. Each renders to text; `each` and `scope` render
their child against an environment of their own making. -/

namespace DeclaredUi

namespace Reference

def renderTexts (env : Value) : List Value → Script (List String)
  | [] => return []
  | child :: rest => do
    let rendered ← Script.render child env
    return rendered.text :: (← renderTexts env rest)

def text (config _env : Value) : Script Value :=
  return config.firstTruthy ["content", "$text"]

def image (config _env : Value) : Script Value :=
  let source := config.firstTruthy ["source", "$image"]
  let alt := config.getOrNull "alt"
  return .string ("<img src=\"" ++ source.text ++ "\" alt=\"" ++ alt.text ++ "\">")

def sentence (rendered : String) : String :=
  if rendered.toList.getLast? = some '.' then rendered else rendered ++ "."

def paragraph (config env : Value) : Script Value := do
  let rendered ← renderTexts env (config.firstTruthy ["sentences", "$paragraph"]).intoItems
  return .string ("<p>" ++ " ".intercalate (rendered.map sentence) ++ "</p>")

def boxOpening : String := "<div style=\"display: flex; flex-flow: column\">"

def boxClosing : String := "</div>"

/-- The lines of a rendered child, one level further in. -/
def indented (rendered : String) : List String :=
  (Lines.ofText rendered).map fun line => "  " ++ line

/-- Children below each other in a box, every line of them one level in. -/
def vbox (config env : Value) : Script Value := do
  let rendered ← renderTexts env (config.firstTruthy ["children", "$vbox"]).intoItems
  let lines := boxOpening :: rendered.flatMap indented ++ [boxClosing]
  return .string (String.join (lines.map Lines.terminated))

/-- Renders `child` once for every item, the item bound to `name` in the scope,
which is carried on from item to item. -/
def renderEach (child : Value) (name : String) :
    List (String × Value) → List Value → Script String
  | _, [] => return ""
  | scope, item :: rest => do
    let scope := Fields.insert name item scope
    let rendered ← Script.render child (.object scope)
    return Lines.terminated rendered.text ++ (← renderEach child name scope rest)

/-- One rendering for every item, in an environment that has the item under the
name given by `yield`. -/
def each (config env : Value) : Script Value := do
  let items := (config.firstTruthy ["items", "$each"]).intoItems
  let name := ((config.get? "yield").bind Value.string?).getD ""
  let child := config.getOrNull "do"
  return .string (← renderEach child name env.fieldsOrEmpty items)

/-- Renders its child with the bindings as the whole environment. -/
def scope (config _env : Value) : Script Value :=
  let bindings := (config.firstTruthy ["bindings", "$let"]).fieldsOrEmpty
  Script.render (config.getOrNull "do") (.object bindings)

end Reference

end DeclaredUi
