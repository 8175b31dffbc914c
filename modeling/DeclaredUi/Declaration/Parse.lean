import DeclaredUi.Declaration.Name
import DeclaredUi.Declaration.Parsed

/-! From a declaration to a tree. Every map is one level, and a level declares
at most one element: by a marked key that names a plug-in, by an explicit name,
or by the path of a bind. A level without an element is plain data. -/

namespace DeclaredUi

namespace Declaration

inductive Candidate where
  | entry (entry : Registry.Entry)
  | bind

def Candidate.name : Candidate → String
  | .entry found => found.name
  | .bind => "bind"

/-- The plug-ins that the marked keys of a level name, in key order. -/
def shorthandEntries (registry : Registry) (keys : List String) : List Registry.Entry :=
  (keys.filterMap shorthand?).filterMap registry.get?

def warning? (registry : Registry) (key : String) : Option Warning :=
  (shorthand? key).bind fun name => if registry.contains name then none else some ⟨key⟩

/-- The plug-in that a level names under an explicit key; `null` names none. -/
def explicitEntry (registry : Registry) (fields : List (String × Json)) (key : String) :
    Except ConfigurationFault (Option Registry.Entry) :=
  match fields.lookup key with
  | none | some .null => .ok none
  | some (.string name) =>
    if (unmark? name).isSome then .error (.markedReference key name)
    else match registry.get? name with
      | some entry => .ok (some entry)
      | none => .error (.unknownReference key name)
  | some other => .error (.referenceNotString key other.kind)

/-- All elements that a level declares: marked keys in order, the explicit
component, the explicit helper, a bind. -/
def candidates (registry : Registry) (fields : List (String × Json)) :
    Except ConfigurationFault (List Candidate) := do
  let shorthands := shorthandEntries registry (Fields.keys fields)
  let component ← explicitEntry registry fields componentKey
  let helper ← explicitEntry registry fields helperKey
  let bind := if (fields.lookup bindKey).isSome then [Candidate.bind] else []
  return (shorthands ++ component.toList ++ helper.toList).map .entry ++ bind

def level (registry : Registry) (fields : List (String × Json)) : Parsed (Option Candidate) where
  warnings := (Fields.keys fields).filterMap (warning? registry)
  result := do
    match ← candidates registry fields with
    | [] => return none
    | [candidate] => return some candidate
    | several => throw (.ambiguous (several.map Candidate.name))

def bindOf (fields : List (String × Json)) : Except ConfigurationFault Bind :=
  match (fields.lookup bindKey).getD .null with
  | .string path => .ok ⟨path, .object fields⟩
  | other => .error (.bindPathNotString other.kind)

mutual

def parseNode (registry : Registry) : Json → Parsed Node
  | .object fields => do
    match ← level registry fields with
    | none => return .map (← parseFields registry fields)
    | some .bind => ⟨[], (bindOf fields).map .bind⟩
    | some (.entry entry) =>
      let config ← parseFields registry fields
      return .invocation entry.role entry.name entry.plugin (.map config) (.object fields)
  | .array items => return .sequence (← parseItems registry items)
  | scalar => return .scalar scalar

def parseItems (registry : Registry) : List Json → Parsed (List Node)
  | [] => return []
  | item :: rest => do
    let node ← parseNode registry item
    return node :: (← parseItems registry rest)

/-- The trees of the values of a level. Explicit names identify and are kept as
they are. -/
def parseFields (registry : Registry) : List (String × Json) → Parsed (List (String × Node))
  | [] => return []
  | (key, value) :: rest => do
    let node ←
      if key = componentKey ∨ key = helperKey then pure (.scalar value)
      else parseNode registry value
    return (key, node) :: (← parseFields registry rest)

end

def parse (registry : Registry) (declaration : Json) : Parsed Invocation :=
  match declaration with
  | .object _ => do
    match ← parseNode registry declaration with
    | .invocation .component name plugin config raw => return ⟨name, plugin, config, raw⟩
    | _ => .fault .noRootComponent
  | other => .fault (.notAMap other.kind)

end Declaration

end DeclaredUi
