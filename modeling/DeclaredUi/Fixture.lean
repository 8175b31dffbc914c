import DeclaredUi.Reference.Registry

/-! Small plug-ins that use the contract in every way it allows: they show what
they were given, render children one by one, and fail in each way there is. -/

namespace DeclaredUi

namespace Fixture

def entryText (key : String) (config : Value) : String := (config.getOrNull key).text

def safeHtml (html : String) : Value := .foreign ⟨0, .safeHtml html⟩

def word (value : UInt64) : Value := .foreign ⟨0, .word value⟩

def renderAll (env : Value) : List Value → Script (List Value)
  | [] => return []
  | child :: rest => do
    let rendered ← Script.render child env
    return rendered :: (← renderAll env rest)

def showValue (config _env : Value) : Script Value :=
  return .string ("[" ++ entryText "value" config ++ "]")

def unescape (config _env : Value) : Script Value :=
  return .string (Html.unescape (entryText "value" config))

def child (config env : Value) : Script Value := Script.render (config.getOrNull "child") env

def children (config env : Value) : Script Value :=
  return .array (← renderAll env (config.getOrNull "items").intoItems)

def bound (config env : Value) : Script Value :=
  let scope := Fields.insert (entryText "name" config) (config.getOrNull "value") env.fieldsOrEmpty
  Script.render (config.getOrNull "child") (.object scope)

def failure (config : Value) : Failure := .error (.plain (entryText "message" config))

/-- Renders a child; what becomes of an error is up to `handle`. -/
def handling (handle : Value → Error → Script Value) (config env : Value) : Script Value := do
  match ← Script.attempt (config.getOrNull "child") env with
  | .ok rendered => return rendered
  | .error error => handle config error

def caught (_config : Value) (error : Error) : Script Value :=
  return .string ("caught: " ++ error.message)

def remarked (config : Value) (error : Error) : Script Value :=
  .fail (.error (.context (entryText "message" config) (.raised error)))

def rebranded (_config : Value) (error : Error) : Script Value :=
  .fail (.error (.plain ("rebranded: " ++ error.message)))

/-- A plug-in without a role that returns its config. -/
def bare : Plugin where
  run config _ _ := return config

/-- A plug-in that answers the registry as it is told to, and returns its config
with whether children could be rendered. -/
def probe (signature : Signature) (isComponent? isHelper? : Option Bool) : Plugin where
  run config _ canRender := return .array [config, .bool canRender]
  signature
  isComponent?
  isHelper?

def table : List (String × Plugin) :=
  [("echo", .component fun config _ => return config),
   ("echo_helper", .helper fun config _ => .ok config),
   ("env", .component fun _ env => return env),
   ("env_helper", .helper fun _ env => .ok env),
   ("pick", .helper fun config _ => .ok (config.getOrNull "value")),
   ("show", .component showValue),
   ("safe", .helper fun config _ => .ok (safeHtml (entryText "value" config))),
   ("opaque", .helper fun _ _ => .ok (word 7)),
   ("unescape", .component unescape),
   ("kind", .helper fun config _ => .ok (.string (config.getOrNull "value").kind)),
   ("child", .component child),
   ("children", .component children),
   ("with", .component bound),
   ("fail", .component fun config _ => .fail (failure config)),
   ("fail_helper", .helper fun config _ => .error (failure config)),
   ("panic_str", .component fun _ _ => .fail (.panic "unexpected state")),
   ("panic_string", .helper fun config _ =>
     .error (.panic ("lost " ++ entryText "message" config))),
   ("panic_any", .component fun _ _ => .fail (.panic "unknown panic")),
   ("raise", .component fun config _ =>
     .fail (.error (.raised (.internal (entryText "message" config))))),
   ("attempt", .component (handling caught)),
   ("context", .component (handling remarked)),
   ("rebrand", .component (handling rebranded))]

/-- The reference plug-ins and the fixtures by name. -/
def everything : List (String × Plugin) := Reference.table ++ table

end Fixture

end DeclaredUi
