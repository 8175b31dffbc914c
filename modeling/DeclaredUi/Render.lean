import DeclaredUi.Plugin.Basic
import DeclaredUi.Value.Path
import DeclaredUi.Value.Text

/-! Rendering a tree against an environment. A config is resolved first: binds
are looked up, helpers are called, and nested components are handed over as they
are. Escaping applies once, to the resolved config of a component, before its
plug-in sees it.

A component carried by an environment can be rendered below itself, so nothing
bounds how deeply renderings nest. The limit does: it is the number of components
that may be in the middle of rendering at once, and reaching it is an outcome of
its own, told apart from every answer. -/

namespace DeclaredUi

/-- How rendering ends without a value. -/
inductive Stop where
  /-- By an error, which plug-ins on the way may handle. -/
  | error (error : Error)
  /-- By a panic, which no plug-in sees. -/
  | panic (message : String)
  | tooDeep
deriving DecidableEq, Repr

abbrev Outcome := Except Stop

namespace Stop

def ofFailure (element : String) : Failure → Stop
  | .error failed => .error (failed.blame element)
  | .panic message => .panic message

end Stop

namespace Outcome

variable {α : Type}

def guarded : Outcome α → Outcome α
  | .error (.panic message) => .error (.error (.internal message))
  | outcome => outcome

end Outcome

/-- Runs the script of an element; `answer` renders the children it asks for. -/
def Script.run {α : Type} (element : String) (answer : Value → Value → Outcome Value) :
    Script α → Outcome α
  | .done result => .ok result
  | .fail failure => .error (.ofFailure element failure)
  | .renderChild child env next =>
    match answer child env with
    | .ok value => (next (.ok value)).run element answer
    | .error (.error error) => (next (.error error)).run element answer
    | .error (.panic message) => .error (.panic message)
    | .error .tooDeep => .error .tooDeep

namespace Script

variable {α β : Type} (element : String) (answer : Value → Value → Outcome Value)

/-- A child that is rendered and passed on is what the script comes to. -/
@[simp] theorem run_render (child env : Value) :
    (Script.render child env).run element answer = answer child env := by
  rw [Script.render, Script.run]
  cases answer child env with
  | ok value => rfl
  | error stop => cases stop <;> rfl

/-- A script that goes on with another is run up to its end, and then the other is run. -/
theorem run_bind (script : Script α) (next : α → Script β) :
    (script >>= next).run element answer =
      script.run element answer >>= fun result => (next result).run element answer := by
  induction script with
  | done result => rfl
  | fail failure => rfl
  | renderChild child env rest ih =>
    rw [renderChild_bind, Script.run, Script.run]
    cases answer child env with
    | ok value => exact ih _
    | error stop =>
      cases stop with
      | error error => exact ih _
      | panic message => rfl
      | tooDeep => rfl

end Script

namespace Render

def callHelper (plugins : Plugins) (name : String) (plugin : PluginId) (config env : Value) :
    Outcome Value :=
  ((plugins plugin).call config env).mapError (Stop.ofFailure name)

mutual

/-- The value of a config. Nothing is escaped here, so the config of a helper
reaches it as it was resolved. -/
def resolve (plugins : Plugins) (env : Value) : Node → Outcome Value
  | .bind bind => .ok (bind.evaluate env)
  | .invocation .component name plugin config declaration =>
    .ok (.element ⟨name, plugin, config, declaration⟩)
  | .invocation .helper name plugin config _ => do
    callHelper plugins name plugin (← resolve plugins env config) env
  | .map fields => return .object (← resolveFields plugins env fields)
  | .sequence items => return .array (← resolveItems plugins env items)
  | .scalar value => .ok (.ofJson value)

def resolveItems (plugins : Plugins) (env : Value) : List Node → Outcome (List Value)
  | [] => .ok []
  | item :: rest => do
    let value ← resolve plugins env item
    return value :: (← resolveItems plugins env rest)

def resolveFields (plugins : Plugins) (env : Value) :
    List (String × Node) → Outcome (List (String × Value))
  | [] => .ok []
  | (key, node) :: rest => do
    let value ← resolve plugins env node
    return (key, value) :: (← resolveFields plugins env rest)

end

/-- A resolved config as the plug-in gets to see it. -/
def prepare (escape : Bool) (config : Value) : Value :=
  if escape then config.escapeHtml else config

def prepareConfig (plugins : Plugins) (escape : Bool) (config : Node) (env : Value) :
    Outcome Value :=
  (resolve plugins env config).map (prepare escape)

/-- Renders a component. A child that is a component is rendered in turn, with
one level less to go; any other child comes back as it is. -/
def component (plugins : Plugins) (escape : Bool) : Nat → Invocation → Value → Outcome Value
  | 0, _, _ => .error .tooDeep
  | limit + 1, invocation, env => do
    let config ← prepareConfig plugins escape invocation.config env
    ((plugins invocation.plugin).run config env true).run invocation.name fun child env =>
      match child with
      | .element nested => component plugins escape limit nested env
      | other => .ok other

/-- Renders any node: a component as such, a helper on its prepared config, and
everything else to its value. -/
def element (plugins : Plugins) (escape : Bool) (limit : Nat) (node : Node) (env : Value) :
    Outcome Value :=
  match node with
  | .invocation .component name plugin config declaration =>
    component plugins escape limit ⟨name, plugin, config, declaration⟩ env
  | .invocation .helper name plugin config _ => do
    callHelper plugins name plugin (← prepareConfig plugins escape config env) env
  | other => resolve plugins env other

end Render

/-- A tree and whether configs are escaped. -/
structure Renderer where
  root : Invocation
  escapeHtml : Bool := true

def Renderer.render (renderer : Renderer) (plugins : Plugins) (limit : Nat) (env : Value) :
    Outcome Value :=
  Render.component plugins renderer.escapeHtml limit renderer.root env

end DeclaredUi
