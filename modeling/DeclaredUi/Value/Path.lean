import DeclaredUi.Value.Basic

/-! Following a path through a value. Objects are entered by key and arrays by
index; whatever does not lead on ends at `null`. -/

namespace DeclaredUi

namespace Value

def child? (segment : String) : Value → Option Value
  | .object fields => fields.lookup segment
  | .array items => (Bind.arrayIndex? segment).bind (items[·]?)
  | _ => none

/-- The value at the end of the steps, if each of them leads on. -/
def follow? (segments : List String) (value : Value) : Option Value :=
  segments.foldlM (fun current segment => child? segment current) value

@[simp] theorem follow?_nil (value : Value) : value.follow? [] = some value := rfl

theorem follow?_cons (segment : String) (rest : List String) (value : Value) :
    value.follow? (segment :: rest) = (value.child? segment).bind (follow? rest) := by
  rw [follow?, List.foldlM_cons]
  rfl

theorem follow?_append (before after : List String) (value : Value) :
    value.follow? (before ++ after) = (value.follow? before).bind (follow? after) := by
  rw [follow?, List.foldlM_append]
  rfl

end Value

/-- The value a reference finds in an environment, or `null`. -/
def Bind.evaluate (bind : Bind) (env : Value) : Value :=
  (env.follow? bind.segments).getD .null

end DeclaredUi
