import DeclaredUi.Plugin.Script

/-! Plug-ins: the contract between the renderer and the implementations of
elements. A plug-in says what inputs it takes and which role it has, and what
it does is a script. -/

namespace DeclaredUi

structure Signature where
  positional : Nat
  renderChild : Bool
deriving DecidableEq, Repr

namespace Signature

def configEnv : Signature := ⟨2, false⟩

def configEnvRenderChild : Signature := ⟨2, true⟩

/-- A plug-in takes exactly a config and an environment; the rest is its choice. -/
def isValid (signature : Signature) : Bool := signature.positional == 2

def text (signature : Signature) : String :=
  toString signature.positional ++ " positional parameter" ++
    (if signature.positional = 1 then "" else "s") ++
    (if signature.renderChild then " and a render_child callback" else "")

end Signature

/-- The implementation of an element. `run` is given the config, the environment
and whether children can be rendered. -/
structure Plugin where
  run : Value → Value → Bool → Script Value
  signature : Signature := .configEnv
  isComponent? : Option Bool := none
  isHelper? : Option Bool := none

namespace Plugin

/-- A plug-in that renders output and may have children rendered. -/
def component (run : Value → Value → Script Value) : Plugin where
  run config env _ := run config env
  signature := .configEnvRenderChild
  isComponent? := some true

/-- A plug-in that computes a value and never renders a child. -/
def helper (compute : Value → Value → Except Failure Value) : Plugin where
  run config env _ := .ofExcept (compute config env)
  isHelper? := some true

/-- Calls a plug-in with no way to render children. -/
def call (plugin : Plugin) (config env : Value) : Except Failure Value :=
  (plugin.run config env false).detached

def inert : Plugin where
  run _ _ _ := .done .null

end Plugin

/-- The plug-ins in use, by identity. -/
abbrev Plugins := PluginId → Plugin

namespace Plugins

/-- Plug-ins numbered in order; identities beyond the list stand for one that
does nothing. -/
def ofList (plugins : List Plugin) : Plugins :=
  fun id => (plugins[id.index]?).getD .inert

end Plugins

end DeclaredUi
