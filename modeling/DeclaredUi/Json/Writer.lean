import DeclaredUi.Json.Basic

/-! The compact text of a document: no blanks, keys in order. In a string the
quote, the backslash and the characters below U+0020 are escaped, and nothing
else. -/

namespace DeclaredUi

namespace Json

def hexDigit (value : Nat) : Char :=
  if value < 10 then Char.ofNat (48 + value) else Char.ofNat (87 + value)

/-- How a character is written inside a string. -/
def escapeChar (c : Char) : List Char :=
  if c = '"' then ['\\', '"']
  else if c = '\\' then ['\\', '\\']
  else if c = '\x08' then ['\\', 'b']
  else if c = '\x0c' then ['\\', 'f']
  else if c = '\n' then ['\\', 'n']
  else if c = '\r' then ['\\', 'r']
  else if c = '\t' then ['\\', 't']
  else if c.toNat < 0x20 then
    ['\\', 'u', '0', '0', hexDigit (c.toNat / 16), hexDigit (c.toNat % 16)]
  else [c]

def quote (text : String) : String :=
  "\"" ++ String.ofList (text.toList.flatMap escapeChar) ++ "\""

mutual

def compact : Json → String
  | .null => "null"
  | .bool value => if value then "true" else "false"
  | .number value => value.text
  | .string value => quote value
  | .array items => "[" ++ ",".intercalate (compactItems items) ++ "]"
  | .object fields => "\x7b" ++ ",".intercalate (compactFields fields) ++ "\x7d"

def compactItems : List Json → List String
  | [] => []
  | item :: rest => compact item :: compactItems rest

def compactFields : List (String × Json) → List String
  | [] => []
  | (key, value) :: rest => (quote key ++ ":" ++ compact value) :: compactFields rest

end

@[simp] theorem compactItems_eq_map (items : List Json) :
    compactItems items = items.map compact := by
  induction items with
  | nil => rfl
  | cons item rest ih => simp [compactItems, ih]

@[simp] theorem compactFields_eq_map (fields : List (String × Json)) :
    compactFields fields = fields.map fun pair => quote pair.1 ++ ":" ++ compact pair.2 := by
  induction fields with
  | nil => rfl
  | cons pair rest ih => simp [compactFields, ih]

end Json

end DeclaredUi
