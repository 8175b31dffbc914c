import DeclaredUi.Value.Text

/-! The reference helpers. -/

namespace DeclaredUi

namespace Reference

/-- One of two branches. An explicit condition decides even when it is `null` or
`false`; without one the shorthand does. -/
def choose (config : Value) : Value :=
  let condition := match config.get? "condition" with
    | some condition => condition.truthy
    | none => (config.getOrNull "$if").truthy
  config.getOrNull (if condition then "then" else "else")

mutual

/-- What is left of a value when all nesting of arrays is undone. -/
def leaves : Value → List Value
  | .array items => leavesOf items
  | value => [value]

def leavesOf : List Value → List Value
  | [] => []
  | item :: rest => leaves item ++ leavesOf rest

end

@[simp] theorem leavesOf_eq_flatMap (items : List Value) :
    leavesOf items = items.flatMap leaves := by
  induction items with
  | nil => rfl
  | cons item rest ih => simp [leavesOf, ih]

/-- The texts of all leaves with a separator between them. -/
def join (config : Value) : Value :=
  let items := (config.firstTruthy ["items", "$join"]).intoItems
  let separator := ((config.firstTruthy? ["separator"]).map Value.text).getD ""
  .string (separator.intercalate ((leavesOf items).map Value.text))

end Reference

end DeclaredUi
