import DeclaredUi.Bind

/-! The parsed form of a declaration: a tree of plain data with elements in it.
An element is a bind or the invocation of a plug-in, and an invocation keeps
its own config as a subtree. A plug-in is known by its identity alone. -/

namespace DeclaredUi

/-- What an invocation is for: output, or a value for another's config. -/
inductive Role where
  | component
  | helper
deriving DecidableEq, Repr, Inhabited

def Role.text : Role → String
  | .component => "component"
  | .helper => "helper"

structure PluginId where
  index : Nat
deriving DecidableEq, Repr, Inhabited

inductive Node where
  | bind (bind : Bind)
  | invocation (role : Role) (name : String) (plugin : PluginId) (config : Node)
    (declaration : Json)
  /-- A map that declares no element. -/
  | map (fields : List (String × Node))
  | sequence (items : List Node)
  /-- Plain data, exactly as declared. -/
  | scalar (value : Json)

/-- An invocation on its own: the plug-in by name and identity, its config, and
the declaration it was parsed from, `null` if built by hand. -/
structure Invocation where
  name : String
  plugin : PluginId
  config : Node
  declaration : Json

def Invocation.toNode (invocation : Invocation) (role : Role) : Node :=
  .invocation role invocation.name invocation.plugin invocation.config invocation.declaration

namespace Node

/-- The config of an element that declares none. -/
def empty : Node := .map []

instance : Inhabited Node := ⟨empty⟩

mutual

/-- Equality of trees: plug-ins by identity, maps up to the order of keys. -/
def beq : Node → Node → Bool
  | .bind a, .bind b => a == b
  | .invocation role name plugin config declaration,
    .invocation role' name' plugin' config' declaration' =>
    role == role' && name == name' && plugin == plugin' && beq config config' &&
      declaration == declaration'
  | .map fields, .map others => fields.length == others.length && beqFields fields others
  | .sequence items, .sequence others => beqItems items others
  | .scalar a, .scalar b => a == b
  | _, _ => false

def beqItems : List Node → List Node → Bool
  | [], [] => true
  | item :: rest, other :: others => beq item other && beqItems rest others
  | _, _ => false

def beqFields : List (String × Node) → List (String × Node) → Bool
  | [], _ => true
  | (key, node) :: rest, others =>
    (match others.lookup key with
      | some other => beq node other
      | none => false) && beqFields rest others

end

instance : BEq Node := ⟨beq⟩

end Node

namespace Invocation

instance : Inhabited Invocation := ⟨⟨"", ⟨0⟩, .empty, .null⟩⟩

/-- Equality of invocations: name, identity of the plug-in, config and
declaration. -/
def beq (a b : Invocation) : Bool :=
  a.name == b.name && a.plugin == b.plugin && a.config == b.config &&
    a.declaration == b.declaration

instance : BEq Invocation := ⟨beq⟩

end Invocation

end DeclaredUi
