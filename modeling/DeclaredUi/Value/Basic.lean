import DeclaredUi.Html
import DeclaredUi.Node.Basic

/-! Values: environments, resolved configs and what plug-ins return. Beside the
shapes of a document there are two kinds that nothing looks inside: a component
handed over unrendered, and a foreign value made by a plug-in. -/

namespace DeclaredUi

inductive Payload where
  /-- Markup that a plug-in vouches for. -/
  | safeHtml (html : String)
  | word (value : UInt64)
deriving DecidableEq, Repr

/-- A value only its maker understands. Two of them are equal only when they are
the same one, which the identity tells. -/
structure Foreign where
  identity : Nat
  payload : Payload
deriving DecidableEq, Repr

inductive Value where
  | null
  | bool (value : Bool)
  | number (value : Number)
  | string (value : String)
  | array (items : List Value)
  | object (fields : List (String × Value))
  /-- A component that is left to be rendered. -/
  | element (component : Invocation)
  | foreign (value : Foreign)

namespace Value

instance : Inhabited Value := ⟨.null⟩

def kind : Value → String
  | .null => "null"
  | .bool _ => "boolean"
  | .number _ => "number"
  | .string _ => "string"
  | .array _ => "array"
  | .object _ => "map"
  | .element _ => "element"
  | .foreign _ => "opaque"

def isNull : Value → Bool
  | .null => true
  | _ => false

/-- Only `null` and `false` are not. -/
def truthy : Value → Bool
  | .null => false
  | .bool value => value
  | _ => true

def string? : Value → Option String
  | .string value => some value
  | _ => none

def array? : Value → Option (List Value)
  | .array items => some items
  | _ => none

def object? : Value → Option (List (String × Value))
  | .object fields => some fields
  | _ => none

def foreign? : Value → Option Foreign
  | .foreign value => some value
  | _ => none

/-- The value under `key`, if this is an object that has the key. -/
def get? (key : String) : Value → Option Value
  | .object fields => fields.lookup key
  | _ => none

def getOrNull (key : String) (value : Value) : Value := (value.get? key).getD .null

/-- The first truthy value under one of the keys. -/
def firstTruthy? (keys : List String) (value : Value) : Option Value :=
  (keys.filterMap (get? · value)).find? truthy

def firstTruthy (keys : List String) (value : Value) : Value :=
  (value.firstTruthy? keys).getD .null

/-- The items of an array, nothing for `null`, and any other value by itself. -/
def intoItems : Value → List Value
  | .array items => items
  | .null => []
  | value => [value]

def fieldsOrEmpty : Value → List (String × Value)
  | .object fields => fields
  | _ => []

mutual

/-- Escapes every string in arrays and objects; keys, components and foreign
values stay as they are. -/
def escapeHtml : Value → Value
  | .string value => .string (Html.escape value)
  | .array items => .array (escapeItems items)
  | .object fields => .object (escapeFields fields)
  | value => value

def escapeItems : List Value → List Value
  | [] => []
  | item :: rest => escapeHtml item :: escapeItems rest

def escapeFields : List (String × Value) → List (String × Value)
  | [] => []
  | (key, value) :: rest => (key, escapeHtml value) :: escapeFields rest

end

@[simp] theorem escapeItems_eq_map (items : List Value) :
    escapeItems items = items.map escapeHtml := by
  induction items with
  | nil => rfl
  | cons item rest ih => simp [escapeItems, ih]

@[simp] theorem escapeFields_eq_mapValues (fields : List (String × Value)) :
    escapeFields fields = Fields.mapValues escapeHtml fields := by
  induction fields with
  | nil => rfl
  | cons pair rest ih => simp [escapeFields, Fields.mapValues, ih]

mutual

/-- Equality of values: objects up to the order of keys, foreign values by
identity. -/
def beq : Value → Value → Bool
  | .null, .null => true
  | .bool a, .bool b => a == b
  | .number a, .number b => a == b
  | .string a, .string b => a == b
  | .array items, .array others => beqItems items others
  | .object fields, .object others => fields.length == others.length && beqFields fields others
  | .element a, .element b => a == b
  | .foreign a, .foreign b => a == b
  | _, _ => false

def beqItems : List Value → List Value → Bool
  | [], [] => true
  | item :: rest, other :: others => beq item other && beqItems rest others
  | _, _ => false

def beqFields : List (String × Value) → List (String × Value) → Bool
  | [], _ => true
  | (key, value) :: rest, others =>
    (match others.lookup key with
      | some other => beq value other
      | none => false) && beqFields rest others

end

instance : BEq Value := ⟨beq⟩

end Value

end DeclaredUi
