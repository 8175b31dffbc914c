import DeclaredUi.Value.Basic

/-! Documents, trees and values in which no map has a key twice. An element keeps a tree as
its config and the document that declares it, and both are looked into. -/

namespace DeclaredUi

/-- No object in a document has a key twice. -/
inductive Json.KeysUnique : Json → Prop
  | null : KeysUnique .null
  | bool (value : Bool) : KeysUnique (.bool value)
  | number (value : Number) : KeysUnique (.number value)
  | string (value : String) : KeysUnique (.string value)
  | array {items : List Json} : (∀ item ∈ items, KeysUnique item) → KeysUnique (.array items)
  | object {fields : List (String × Json)} : Fields.Unique fields →
      (∀ field ∈ fields, KeysUnique field.2) → KeysUnique (.object fields)

theorem Json.keysUnique_array_iff {items : List Json} :
    (Json.array items).KeysUnique ↔ ∀ item ∈ items, item.KeysUnique := by
  constructor
  · intro h
    cases h with
    | array hitems => exact hitems
  · exact .array

theorem Json.keysUnique_object_iff {fields : List (String × Json)} :
    (Json.object fields).KeysUnique ↔
      Fields.Unique fields ∧ ∀ field ∈ fields, field.2.KeysUnique := by
  constructor
  · intro h
    cases h with
    | object hunique hfields => exact ⟨hunique, hfields⟩
  · intro h
    exact .object h.1 h.2

/-- No map in a tree has a key twice, nor any object in what it was declared by. -/
inductive Node.KeysUnique : Node → Prop
  | bind {reference : Bind} : reference.declaration.KeysUnique → KeysUnique (.bind reference)
  | invocation {role : Role} {name : String} {plugin : PluginId} {config : Node}
      {declaration : Json} : KeysUnique config → declaration.KeysUnique →
      KeysUnique (.invocation role name plugin config declaration)
  | map {fields : List (String × Node)} : Fields.Unique fields →
      (∀ field ∈ fields, KeysUnique field.2) → KeysUnique (.map fields)
  | sequence {items : List Node} : (∀ item ∈ items, KeysUnique item) →
      KeysUnique (.sequence items)
  | scalar {value : Json} : value.KeysUnique → KeysUnique (.scalar value)

theorem Node.KeysUnique.of_map {fields : List (String × Node)} :
    (Node.map fields).KeysUnique → Fields.Unique fields ∧ ∀ field ∈ fields, field.2.KeysUnique
  | .map hunique hfields => ⟨hunique, hfields⟩

theorem Node.KeysUnique.of_sequence {items : List Node} :
    (Node.sequence items).KeysUnique → ∀ item ∈ items, item.KeysUnique
  | .sequence hitems => hitems

theorem Node.KeysUnique.of_scalar {value : Json} : (Node.scalar value).KeysUnique → value.KeysUnique
  | .scalar hvalue => hvalue

structure Invocation.KeysUnique (used : Invocation) : Prop where
  config : used.config.KeysUnique
  declaration : used.declaration.KeysUnique

/-- No map in a value has a key twice, the components in it included. -/
inductive Value.KeysUnique : Value → Prop
  | null : KeysUnique .null
  | bool (value : Bool) : KeysUnique (.bool value)
  | number (value : Number) : KeysUnique (.number value)
  | string (value : String) : KeysUnique (.string value)
  | array {items : List Value} : (∀ item ∈ items, KeysUnique item) → KeysUnique (.array items)
  | object {fields : List (String × Value)} : Fields.Unique fields →
      (∀ field ∈ fields, KeysUnique field.2) → KeysUnique (.object fields)
  | element {component : Invocation} : component.KeysUnique → KeysUnique (.element component)
  | foreign (value : Foreign) : KeysUnique (.foreign value)

theorem Value.KeysUnique.of_array {items : List Value} :
    (Value.array items).KeysUnique → ∀ item ∈ items, item.KeysUnique
  | .array hitems => hitems

theorem Value.KeysUnique.of_object {fields : List (String × Value)} :
    (Value.object fields).KeysUnique → Fields.Unique fields ∧ ∀ field ∈ fields, field.2.KeysUnique
  | .object hunique hfields => ⟨hunique, hfields⟩

theorem Value.KeysUnique.of_element {component : Invocation} :
    (Value.element component).KeysUnique → component.KeysUnique
  | .element hcomponent => hcomponent

end DeclaredUi
