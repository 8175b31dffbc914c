import DeclaredUi.Json.Writer
import DeclaredUi.Value.Basic

/-! Values as documents and as text. Every document is a value. Back again a
component or foreign value becomes a string of its text, and everything else
stays what it is. -/

namespace DeclaredUi

/-- The text of a foreign value: the markup of safe markup, else nothing. -/
def Foreign.text (value : Foreign) : String :=
  match value.payload with
  | .safeHtml html => html
  | .word _ => ""

/-- The text of a component that was not rendered: its name in angle brackets. -/
def Invocation.text (component : Invocation) : String := "<" ++ component.name ++ ">"

namespace Value

mutual

def ofJson : Json → Value
  | .null => .null
  | .bool value => .bool value
  | .number value => .number value
  | .string value => .string value
  | .array items => .array (ofJsonItems items)
  | .object fields => .object (ofJsonFields fields)

def ofJsonItems : List Json → List Value
  | [] => []
  | item :: rest => ofJson item :: ofJsonItems rest

def ofJsonFields : List (String × Json) → List (String × Value)
  | [] => []
  | (key, value) :: rest => (key, ofJson value) :: ofJsonFields rest

end

@[simp] theorem ofJsonItems_eq_map (items : List Json) :
    ofJsonItems items = items.map ofJson := by
  induction items with
  | nil => rfl
  | cons item rest ih => simp [ofJsonItems, ih]

@[simp] theorem ofJsonFields_eq_mapValues (fields : List (String × Json)) :
    ofJsonFields fields = Fields.mapValues ofJson fields := by
  induction fields with
  | nil => rfl
  | cons pair rest ih => simp [ofJsonFields, Fields.mapValues, ih]

mutual

def toJson : Value → Json
  | .null => .null
  | .bool value => .bool value
  | .number value => .number value
  | .string value => .string value
  | .array items => .array (toJsonItems items)
  | .object fields => .object (toJsonFields fields)
  | .element component => .string component.text
  | .foreign value => .string value.text

def toJsonItems : List Value → List Json
  | [] => []
  | item :: rest => toJson item :: toJsonItems rest

def toJsonFields : List (String × Value) → List (String × Json)
  | [] => []
  | (key, value) :: rest => (key, toJson value) :: toJsonFields rest

end

@[simp] theorem toJsonItems_eq_map (items : List Value) :
    toJsonItems items = items.map toJson := by
  induction items with
  | nil => rfl
  | cons item rest ih => simp [toJsonItems, ih]

@[simp] theorem toJsonFields_eq_mapValues (fields : List (String × Value)) :
    toJsonFields fields = Fields.mapValues toJson fields := by
  induction fields with
  | nil => rfl
  | cons pair rest ih => simp [toJsonFields, Fields.mapValues, ih]

mutual

/-- The text of a value: strings as they are, `null` as nothing, arrays item
after item, objects as compact documents. -/
def text : Value → String
  | .null => ""
  | .bool value => if value then "true" else "false"
  | .number value => value.text
  | .string value => value
  | .array items => textItems items
  | .object fields => (Json.object (toJsonFields fields)).compact
  | .element component => component.text
  | .foreign value => value.text

def textItems : List Value → String
  | [] => ""
  | item :: rest => text item ++ textItems rest

end

end Value

end DeclaredUi
