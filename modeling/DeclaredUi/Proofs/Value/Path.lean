import DeclaredUi.Value.Path

/-! Paths put together by a dot. Their parts are those of the one and then those of the
other, so following the whole is following the second from where the first has led. A miss
on the way comes to `null`, which nothing leads on from. -/

namespace DeclaredUi

namespace Bind

theorem segmentsOf_dotted (first second : String) :
    segmentsOf (first ++ "." ++ second) = segmentsOf first ++ segmentsOf second := by
  have hlist : (first ++ "." ++ second).toList = first.toList ++ '.' :: second.toList := by
    simp
  unfold segmentsOf
  rw [hlist, List.splitOn_append_cons_self, List.filter_append, List.map_append]

/-- A text without a dot is a step by itself. -/
theorem segmentsOf_eq_singleton {text : String} (hne : text ≠ "") (hdot : '.' ∉ text.toList) :
    segmentsOf text = [text] := by
  have hlist : text.toList ≠ [] := by
    rwa [Ne, String.toList_eq_nil_iff]
  unfold segmentsOf
  rw [List.splitOn_eq_singleton hdot]
  simp [hlist]

end Bind

namespace Value

/-- From `null` every path leads to `null`. -/
theorem follow?_null (segments : List String) : (null.follow? segments).getD null = null := by
  cases segments with
  | nil => rfl
  | cons segment rest =>
    rw [follow?_cons]
    rfl

end Value

/-- A path goes on where the path in front of its dot has ended. -/
theorem Bind.evaluate_dotted (first second : String) (env : Value) :
    Bind.evaluate ⟨first ++ "." ++ second, .null⟩ env =
      Bind.evaluate ⟨second, .null⟩ (Bind.evaluate ⟨first, .null⟩ env) := by
  unfold Bind.evaluate Bind.segments
  rw [segmentsOf_dotted, Value.follow?_append]
  cases env.follow? (segmentsOf first) with
  | some found => rfl
  | none => exact (Value.follow?_null (segmentsOf second)).symm

end DeclaredUi
