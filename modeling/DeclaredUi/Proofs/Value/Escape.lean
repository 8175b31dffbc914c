import DeclaredUi.Proofs.Html
import DeclaredUi.Proofs.Parts

/-! Escaping a value reaches every string in its arrays and objects and nothing
else: keys stay, and what stands under a key is escaped in its place. -/

namespace DeclaredUi

namespace Value

/-- Every string in arrays and objects satisfies `p`; keys, components and foreign
values are not looked at. -/
inductive EveryString (p : String → Prop) : Value → Prop
  | null : EveryString p .null
  | bool (value : Bool) : EveryString p (.bool value)
  | number (value : Number) : EveryString p (.number value)
  | string {value : String} : p value → EveryString p (.string value)
  | array {items : List Value} : (∀ item ∈ items, EveryString p item) →
      EveryString p (.array items)
  | object {fields : List (String × Value)} : (∀ field ∈ fields, EveryString p field.2) →
      EveryString p (.object fields)
  | element (component : Invocation) : EveryString p (.element component)
  | foreign (value : Foreign) : EveryString p (.foreign value)

theorem everyString_escapeHtml {p : String → Prop} (hp : ∀ text, p (Html.escape text))
    (value : Value) : EveryString p value.escapeHtml := by
  induction value using Value.byParts with
  | null => exact .null
  | bool value => exact .bool value
  | number value => exact .number value
  | string value => exact .string (hp value)
  | array items ih =>
    rw [escapeHtml, escapeItems_eq_map]
    refine .array fun item hm => ?_
    obtain ⟨original, ho, rfl⟩ := List.mem_map.1 hm
    exact ih original ho
  | object fields ih =>
    rw [escapeHtml, escapeFields_eq_mapValues]
    refine .object fun field hm => ?_
    obtain ⟨original, ho, rfl⟩ := List.mem_map.1 hm
    exact ih original ho
  | element component => exact .element component
  | foreign value => exact .foreign value

theorem get?_escapeHtml (value : Value) (key : String) :
    value.escapeHtml.get? key = (value.get? key).map escapeHtml := by
  cases value with
  | object fields =>
    rw [escapeHtml, escapeFields_eq_mapValues]
    exact Fields.lookup_mapValues escapeHtml fields key
  | _ => rfl

theorem truthy_escapeHtml (value : Value) : value.escapeHtml.truthy = value.truthy := by
  cases value <;> rfl

theorem getOrNull_escapeHtml (value : Value) (key : String) :
    value.escapeHtml.getOrNull key = (value.getOrNull key).escapeHtml := by
  unfold getOrNull
  rw [get?_escapeHtml]
  cases value.get? key <;> rfl

theorem firstTruthy?_escapeHtml (value : Value) (keys : List String) :
    value.escapeHtml.firstTruthy? keys = (value.firstTruthy? keys).map escapeHtml := by
  unfold firstTruthy?
  induction keys with
  | nil => rfl
  | cons key rest ih =>
    rw [List.filterMap_cons, List.filterMap_cons, get?_escapeHtml]
    cases value.get? key with
    | none => exact ih
    | some found =>
      simp only [Option.map_some, List.find?_cons, truthy_escapeHtml]
      cases found.truthy with
      | true => rfl
      | false => exact ih

theorem firstTruthy_escapeHtml (value : Value) (keys : List String) :
    value.escapeHtml.firstTruthy keys = (value.firstTruthy keys).escapeHtml := by
  unfold firstTruthy
  rw [firstTruthy?_escapeHtml]
  cases value.firstTruthy? keys <;> rfl

theorem intoItems_escapeHtml (value : Value) :
    value.escapeHtml.intoItems = value.intoItems.map escapeHtml := by
  cases value with
  | array items =>
    rw [escapeHtml, escapeItems_eq_map]
    rfl
  | _ => rfl

end Value

end DeclaredUi
