import DeclaredUi.Declaration.Parse
import DeclaredUi.Render
import DeclaredUi.Ui.Filter
import DeclaredUi.Ui.Options

/-! A user interface: parsed once, rendered against any number of environments.
It starts without a tree; parsing installs one, and a failed parse leaves the
one that is there. Every operation yields the interface that follows. -/

namespace DeclaredUi

/-- Where warnings go. -/
inductive Sink where
  | silent
  | recording (messages : List String)
deriving DecidableEq, Repr

namespace Sink

def warn (sink : Sink) (message : String) : Sink :=
  match sink with
  | .silent => .silent
  | .recording messages => .recording (messages ++ [message])

def warnAll (sink : Sink) (warnings : List Warning) : Sink :=
  warnings.foldl (fun sink warning => sink.warn warning.message) sink

def messages : Sink → List String
  | .silent => []
  | .recording messages => messages

def clear : Sink → Sink
  | .silent => .silent
  | .recording _ => .recording []

end Sink

/-- The plug-ins and their names, the options, and the tree if there is one. -/
structure Ui where
  plugins : Plugins
  registry : Registry
  options : Options := {}
  sink : Sink := .silent
  renderer : Option Renderer := none

namespace Ui

def isParsed (ui : Ui) : Bool := ui.renderer.isSome

def root? (ui : Ui) : Option Invocation := ui.renderer.map Renderer.root

/-- Turns escaping on or off, for the tree that is there and for later ones. -/
def setEscapeHtml (ui : Ui) (escapeHtml : Bool) : Ui :=
  { ui with
    options := { ui.options with escapeHtml }
    renderer := ui.renderer.map fun renderer => { renderer with escapeHtml } }

def setRoot (ui : Ui) (root : Invocation) : Ui :=
  { ui with renderer := some ⟨root, ui.options.escapeHtml⟩ }

/-- Changes the root of the tree in place, if there is a tree. -/
def modifyRoot (ui : Ui) (change : Invocation → Invocation) : Ui :=
  { ui with
    renderer := ui.renderer.map fun renderer => { renderer with root := change renderer.root } }

def setConfig (ui : Ui) (config : Node) : Ui :=
  ui.modifyRoot fun root => { root with config }

/-- Parses a declaration and installs its tree. The warnings are taken whether
there is a fault or not. -/
def parse (ui : Ui) (declaration : Json) : Ui × Except Error Invocation :=
  let parsed := Declaration.parse ui.registry declaration
  let ui := { ui with sink := ui.sink.warnAll parsed.warnings }
  match parsed.result with
  | .ok root => (ui.setRoot root, .ok root)
  | .error fault => (ui, .error (.configuration fault))

/-- Renders the tree against an environment. A panic is an internal error. -/
def render (ui : Ui) (limit : Nat) (env : Value) : Outcome Value :=
  match ui.renderer with
  | some renderer => (renderer.render ui.plugins limit env).guarded
  | none => .error (.error (.configuration .renderUnparsed))

def queryRoot (ui : Ui) (operation : String) : Except Error Invocation :=
  match ui.renderer with
  | some renderer => .ok renderer.root
  | none => .error (.configuration (.queryUnparsed operation))

/-- The paths of all binds in the tree, each once, in the order in which they
first occur. -/
def uniqueBindPaths (ui : Ui) : Except Error (List String) := do
  let root ← ui.queryRoot "unique_bind_paths"
  return (root.elements.toList.filterMap Element.bindPath?).eraseDups

/-- The query for the elements that pass a filter, about to hand out their declarations. -/
def select (ui : Ui) (filter : ElementFilter) : Except Error Selection := do
  let root ← ui.queryRoot "each_element"
  return ⟨root.elements, filter⟩

/-- The declarations of the elements that pass a filter, in pre-order. -/
def eachElement (ui : Ui) (filter : ElementFilter) : Except Error (List Json) := do
  return (← ui.select filter).toList

def forEachElement {σ : Type} (ui : Ui) (filter : ElementFilter) (visit : σ → Json → σ)
    (start : σ) : Except Error σ := do
  return (← ui.eachElement filter).foldl visit start

end Ui

end DeclaredUi
