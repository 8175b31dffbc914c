import DeclaredUi.Plugin.Basic

/-! The plug-ins that declarations can name. A registry is built from a list of
names and plug-ins and refuses the first entry that is not in order; the role of
each plug-in is settled then. -/

namespace DeclaredUi

/-- The sign in front of a key that declares an element. -/
def marker : Char := '$'

def unmark? (key : String) : Option String :=
  match key.toList with
  | c :: rest => if c = marker then some (String.ofList rest) else none
  | [] => none

def mark (name : String) : String := String.ofList (marker :: name.toList)

structure Registry.Entry where
  name : String
  plugin : PluginId
  role : Role
deriving DecidableEq, Repr

/-- The registered plug-ins, in the order in which they were registered. -/
structure Registry where
  entries : List Registry.Entry := []
deriving DecidableEq, Repr

namespace Registry

def empty : Registry := ⟨[]⟩

def get? (registry : Registry) (name : String) : Option Entry :=
  registry.entries.find? (·.name == name)

def contains (registry : Registry) (name : String) : Bool := (registry.get? name).isSome

def role? (registry : Registry) (name : String) : Option Role := (registry.get? name).map Entry.role

/-- The registered names in ascending order of their characters. -/
def names (registry : Registry) : List String :=
  (registry.entries.map Entry.name).mergeSort fun a b => decide (a ≤ b)

def size (registry : Registry) : Nat := registry.entries.length

def checkName (name : String) : Except ConfigurationFault Unit :=
  if name = "" then .error .emptyName
  else if (unmark? name).isSome then .error (.markedName name)
  else .ok ()

/-- The role of a plug-in: one answer decides by itself, two have to differ. -/
def roleOf (name : String) (plugin : Plugin) : Except ConfigurationFault Role :=
  match plugin.isComponent?, plugin.isHelper? with
  | none, none => .error (.missingRole name)
  | some component, some helper =>
    if component = helper then .error (.conflictingRoles name)
    else .ok (if component then .component else .helper)
  | some component, none => .ok (if component then .component else .helper)
  | none, some helper => .ok (if helper then .helper else .component)

def register (plugins : Plugins) (registry : Registry) (name : String) (plugin : PluginId) :
    Except ConfigurationFault Registry := do
  checkName name
  if registry.contains name then throw (.duplicateName name)
  let signature := (plugins plugin).signature
  if !signature.isValid then throw (.invalidSignature name signature.text)
  let role ← roleOf name (plugins plugin)
  return ⟨registry.entries ++ [⟨name, plugin, role⟩]⟩

/-- The registry of a list of names and plug-ins, or the first fault in it. -/
def ofList (plugins : Plugins) (mapping : List (String × PluginId)) :
    Except ConfigurationFault Registry :=
  mapping.foldlM (fun registry entry => registry.register plugins entry.1 entry.2) .empty

end Registry

end DeclaredUi
