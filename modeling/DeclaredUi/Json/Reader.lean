import DeclaredUi.Json.Token

/-! Reading a document: a machine that takes one token at a time and keeps the
arrays and objects that are still open on a stack. A repeated key keeps its
first place and its last value. -/

namespace DeclaredUi

namespace Json

/-- An array or object that waits for a value: the items so far, in reverse, or
the fields so far and the key that the value is for. -/
inductive Frame where
  | array (items : List Json)
  | field (fields : List (String × Json)) (key : String)

/-- What may come next in the innermost array or object. -/
inductive Expecting where
  | value
  /-- The first item of an array, or its end. -/
  | firstItem
  /-- A comma and another item, or the end of the array. -/
  | nextItem (items : List Json)
  /-- The first key of an object, or its end. -/
  | firstKey
  | key (fields : List (String × Json))
  /-- The colon after a key. -/
  | colon (fields : List (String × Json)) (key : String)
  /-- A comma and another field, or the end of the object. -/
  | nextField (fields : List (String × Json))
  /-- Nothing: the document is complete. -/
  | finished (value : Json)

structure Reading where
  frames : List Frame
  expecting : Expecting

namespace Reading

/-- Hands a complete value to the innermost frame. -/
def complete (value : Json) : List Frame → Reading
  | [] => ⟨[], .finished value⟩
  | .array items :: rest => ⟨rest, .nextItem (value :: items)⟩
  | .field fields key :: rest => ⟨rest, .nextField (Fields.insert key value fields)⟩

def begin (dialect : Dialect) (frames : List Frame) : Token → Option Reading
  | .scalar value => some (complete value frames)
  | .openArray => opened .firstItem
  | .openObject => opened .firstKey
  | _ => none
where
  opened (expecting : Expecting) : Option Reading :=
    if dialect.deepest?.any (· ≤ frames.length) then none else some ⟨frames, expecting⟩

def takeKey (frames : List Frame) (fields : List (String × Json)) : Token → Option Reading
  | .scalar (.string key) => some ⟨frames, .colon fields key⟩
  | _ => none

def step (dialect : Dialect) (state : Reading) (token : Token) : Option Reading :=
  match state.expecting, token with
  | .value, token => begin dialect state.frames token
  | .firstItem, .closeArray => some (complete (.array []) state.frames)
  | .firstItem, token => begin dialect (.array [] :: state.frames) token
  | .nextItem items, .closeArray => some (complete (.array items.reverse) state.frames)
  | .nextItem items, .comma => some ⟨.array items :: state.frames, .value⟩
  | .firstKey, .closeObject => some (complete (.object []) state.frames)
  | .firstKey, token => takeKey state.frames [] token
  | .key fields, token => takeKey state.frames fields token
  | .colon fields key, .colon => some ⟨.field fields key :: state.frames, .value⟩
  | .nextField fields, .closeObject => some (complete (.object fields) state.frames)
  | .nextField fields, .comma => some ⟨state.frames, .key fields⟩
  | _, _ => none

end Reading

/-- The document that a text holds, if it holds exactly one. -/
def read? (dialect : Dialect) (text : String) : Option Json := do
  let tokens ← Token.scan? dialect text
  let final ← tokens.foldlM (Reading.step dialect) ⟨[], .value⟩
  match final.expecting with
  | .finished value => some value
  | _ => none

end Json

end DeclaredUi
