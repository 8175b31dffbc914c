import DeclaredUi.Registry

/-! Keys that declare elements. A level of a declaration names an element by a
marked key, or explicitly by one of three reserved keys. -/

namespace DeclaredUi

namespace Declaration

def componentKey : String := "$component"

def helperKey : String := "$helper"

def bindKey : String := "$bind"

/-- Keys that are never read as the name of an element. -/
def reservedKeys : List String := [componentKey, helperKey, bindKey]

/-- The element name in a marked key that is not reserved. -/
def shorthand? (key : String) : Option String :=
  if key ∈ reservedKeys then none else unmark? key

/-- The name of the element that a raw declaration declares, told from its keys
alone: the explicit component, the explicit helper, `bind`, or the first marked
key. -/
def elementName? : Json → Option String
  | .object fields =>
    match fields.lookup componentKey, fields.lookup helperKey with
    | some name, _ => name.string?
    | none, some name => name.string?
    | none, none =>
      if (fields.lookup bindKey).isSome then some "bind"
      else (Fields.keys fields).findSome? unmark?
  | _ => none

end Declaration

end DeclaredUi
