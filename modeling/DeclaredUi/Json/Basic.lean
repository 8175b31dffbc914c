import DeclaredUi.Fields
import DeclaredUi.Number.Basic

/-! Documents: declarations and environments before they mean anything. The
fields of an object keep their order, which later decides the order of
warnings, walks and texts; the comparison `==` disregards it. Structural
equality `=` stays the finer of the two. -/

namespace DeclaredUi

inductive Json where
  | null
  | bool (value : Bool)
  | number (value : Number)
  | string (value : String)
  | array (items : List Json)
  | object (fields : List (String × Json))
deriving Inhabited

namespace Json

def kind : Json → String
  | .null => "null"
  | .bool _ => "boolean"
  | .number _ => "number"
  | .string _ => "string"
  | .array _ => "array"
  | .object _ => "map"

def string? : Json → Option String
  | .string value => some value
  | _ => none

/-- The value under `key`, if this is an object that has the key. -/
def get? (key : String) : Json → Option Json
  | .object fields => fields.lookup key
  | _ => none

mutual

/-- Equality up to the order of keys. -/
def beq : Json → Json → Bool
  | .null, .null => true
  | .bool a, .bool b => a == b
  | .number a, .number b => a == b
  | .string a, .string b => a == b
  | .array items, .array others => beqItems items others
  | .object fields, .object others => fields.length == others.length && beqFields fields others
  | _, _ => false

def beqItems : List Json → List Json → Bool
  | [], [] => true
  | item :: rest, other :: others => beq item other && beqItems rest others
  | _, _ => false

/-- Whether every field has an equal value under its key in the other fields. -/
def beqFields : List (String × Json) → List (String × Json) → Bool
  | [], _ => true
  | (key, value) :: rest, others =>
    (match others.lookup key with
      | some other => beq value other
      | none => false) && beqFields rest others

end

instance : BEq Json := ⟨beq⟩

end Json

end DeclaredUi
