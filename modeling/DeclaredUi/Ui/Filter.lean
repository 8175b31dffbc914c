import DeclaredUi.Node.Elements
import DeclaredUi.Registry

/-! Which elements a query asks for, and the query in progress: a walk that passes over
the elements not asked for. -/

namespace DeclaredUi

/-- All elements, or those of some names, kept without the marker. -/
inductive ElementFilter where
  | all
  | names (names : List String)
deriving DecidableEq, Repr

namespace ElementFilter

/-- A filter by names; each may be written with one marker in front. -/
def ofNames (names : List String) : ElementFilter :=
  .names (names.map fun name => (unmark? name).getD name)

def accepts (filter : ElementFilter) (name : String) : Bool :=
  match filter with
  | .all => true
  | .names accepted => accepted.contains name

end ElementFilter

/-- A walk that hands out the declarations of the elements that pass a filter. -/
structure Selection where
  walk : Walk
  filter : ElementFilter

namespace Selection

def accepts (selection : Selection) (element : Element) : Bool :=
  selection.filter.accepts element.name

def next? (selection : Selection) : Option (Json × Selection) :=
  (selection.walk.find? selection.accepts).map fun found =>
    (found.1.declaration, { selection with walk := found.2 })

theorem stepsOf_next? {selection rest : Selection} {declaration : Json}
    (found : selection.next? = some (declaration, rest)) :
    Walk.stepsOf rest.walk.stack < Walk.stepsOf selection.walk.stack := by
  unfold next? at found
  obtain ⟨⟨element, walk⟩, hfound, heq⟩ := Option.map_eq_some_iff.1 found
  obtain ⟨-, rfl⟩ := Prod.mk.inj heq
  exact Walk.stepsOf_find? hfound

/-- All declarations that a selection still hands out. -/
def toList (selection : Selection) : List Json :=
  match _found : selection.next? with
  | some (declaration, rest) => declaration :: rest.toList
  | none => []
termination_by Walk.stepsOf selection.walk.stack
decreasing_by exact stepsOf_next? _found

end Selection

end DeclaredUi
