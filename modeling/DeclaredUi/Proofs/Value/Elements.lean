import DeclaredUi.Proofs.Parts
import DeclaredUi.Value.Path

/-! The components in a value. `EveryElement p` says that `p` is true of every
component that a value holds, however deep in arrays and objects. What is read out of
a value, by key, by path or as items, holds no other components, and a document holds
none. -/

namespace DeclaredUi

namespace Value

/-- Every component in arrays and objects satisfies `p`. -/
inductive EveryElement (p : Invocation → Prop) : Value → Prop
  | null : EveryElement p .null
  | bool (value : Bool) : EveryElement p (.bool value)
  | number (value : Number) : EveryElement p (.number value)
  | string (value : String) : EveryElement p (.string value)
  | array {items : List Value} : (∀ item ∈ items, EveryElement p item) →
      EveryElement p (.array items)
  | object {fields : List (String × Value)} : (∀ field ∈ fields, EveryElement p field.2) →
      EveryElement p (.object fields)
  | element {component : Invocation} : p component → EveryElement p (.element component)
  | foreign (value : Foreign) : EveryElement p (.foreign value)

/-- A document holds no components. -/
theorem everyElement_ofJson (p : Invocation → Prop) (json : Json) :
    (ofJson json).EveryElement p := by
  induction json using Json.byParts with
  | null => exact .null
  | bool value => exact .bool value
  | number value => exact .number value
  | string value => exact .string value
  | array items ih =>
    rw [ofJson, ofJsonItems_eq_map]
    refine .array fun item hm => ?_
    obtain ⟨original, ho, rfl⟩ := List.mem_map.1 hm
    exact ih original ho
  | object fields ih =>
    rw [ofJson, ofJsonFields_eq_mapValues]
    refine .object fun field hm => ?_
    obtain ⟨original, ho, rfl⟩ := List.mem_map.1 hm
    exact ih original ho

theorem firstTruthy_cases (value : Value) (keys : List String) :
    value.firstTruthy keys = .null ∨
      ∃ key ∈ keys, value.get? key = some (value.firstTruthy keys) := by
  unfold firstTruthy firstTruthy?
  cases hf : (keys.filterMap (get? · value)).find? truthy with
  | none => exact .inl rfl
  | some found =>
    obtain ⟨key, hk, hg⟩ := List.mem_filterMap.1 (List.mem_of_find?_eq_some hf)
    exact .inr ⟨key, hk, hg⟩

theorem firstTruthy_of_truthy {value found : Value} {key : String}
    (hg : value.get? key = some found) (ht : found.truthy = true) (rest : List String) :
    value.firstTruthy (key :: rest) = found := by
  simp only [firstTruthy, firstTruthy?, List.filterMap_cons, hg, List.find?_cons_of_pos ht,
    Option.getD_some]

/-- A key with nothing truthy under it is passed over. -/
theorem firstTruthy_of_not_truthy {value : Value} {key : String}
    (h : ∀ found, value.get? key = some found → found.truthy = false) (rest : List String) :
    value.firstTruthy (key :: rest) = value.firstTruthy rest := by
  unfold firstTruthy firstTruthy?
  rw [List.filterMap_cons]
  cases hg : value.get? key with
  | none => rfl
  | some found =>
    have hnot : ¬found.truthy = true := by
      rw [h found hg]
      decide
    exact congrArg (Option.getD · .null) (List.find?_cons_of_neg hnot)

namespace EveryElement

variable {p q : Invocation → Prop} {value : Value}

theorem imp (h : value.EveryElement p) (hi : ∀ used, p used → q used) :
    value.EveryElement q := by
  induction value using Value.byParts with
  | null => exact .null
  | bool value => exact .bool value
  | number value => exact .number value
  | string value => exact .string value
  | array items ih =>
    obtain _ | _ | _ | _ | hitems := h
    exact .array fun item hm => ih item hm (hitems item hm)
  | object fields ih =>
    obtain _ | _ | _ | _ | _ | hfields := h
    exact .object fun field hm => ih field hm (hfields field hm)
  | element component =>
    obtain _ | _ | _ | _ | _ | _ | hp := h
    exact .element (hi component hp)
  | foreign value => exact .foreign value

theorem of_element {used : Invocation} (h : (Value.element used).EveryElement p) : p used := by
  obtain _ | _ | _ | _ | _ | _ | hp := h
  exact hp

/-- Escaping leaves the components alone. -/
theorem escapeHtml (h : value.EveryElement p) : value.escapeHtml.EveryElement p := by
  induction value using Value.byParts with
  | array items ih =>
    obtain _ | _ | _ | _ | hitems := h
    rw [Value.escapeHtml, escapeItems_eq_map]
    refine .array fun item hm => ?_
    obtain ⟨original, ho, rfl⟩ := List.mem_map.1 hm
    exact ih original ho (hitems original ho)
  | object fields ih =>
    obtain _ | _ | _ | _ | _ | hfields := h
    rw [Value.escapeHtml, escapeFields_eq_mapValues]
    refine .object fun field hm => ?_
    obtain ⟨original, ho, rfl⟩ := List.mem_map.1 hm
    exact ih original ho (hfields original ho)
  | string value => exact .string _
  | _ => exact h

theorem fieldsOrEmpty (h : value.EveryElement p) {field : String × Value}
    (hm : field ∈ value.fieldsOrEmpty) : field.2.EveryElement p := by
  cases h with
  | object hfields => exact hfields field hm
  | _ => cases hm

theorem get? (h : value.EveryElement p) {key : String} {found : Value}
    (hg : value.get? key = some found) : found.EveryElement p := by
  cases h with
  | object hfields => exact hfields (key, found) (Fields.mem_of_lookup hg)
  | _ => cases hg

theorem getOrNull (h : value.EveryElement p) (key : String) :
    (value.getOrNull key).EveryElement p := by
  unfold Value.getOrNull
  cases hg : value.get? key with
  | none => exact .null
  | some found => exact h.get? hg

theorem firstTruthy (h : value.EveryElement p) (keys : List String) :
    (value.firstTruthy keys).EveryElement p := by
  rcases value.firstTruthy_cases keys with hnull | ⟨key, -, hg⟩
  · rw [hnull]
    exact .null
  · exact h.get? hg

theorem mem_intoItems (h : value.EveryElement p) {item : Value} (hm : item ∈ value.intoItems) :
    item.EveryElement p := by
  have hvalue := h
  cases h with
  | null => cases hm
  | array hitems => exact hitems item hm
  | _ =>
    rw [List.mem_singleton.1 hm]
    exact hvalue

theorem child? (h : value.EveryElement p) {segment : String} {found : Value}
    (hc : value.child? segment = some found) : found.EveryElement p := by
  cases h with
  | object hfields => exact hfields (segment, found) (Fields.mem_of_lookup hc)
  | array hitems =>
    obtain ⟨index, -, hi⟩ := Option.bind_eq_some_iff.1 hc
    exact hitems found (List.mem_of_getElem? hi)
  | _ => cases hc

theorem follow? (h : value.EveryElement p) {segments : List String} {found : Value}
    (hf : value.follow? segments = some found) : found.EveryElement p := by
  induction segments generalizing value with
  | nil =>
    obtain rfl := Option.some.inj hf
    exact h
  | cons segment rest ih =>
    rw [Value.follow?_cons] at hf
    obtain ⟨next, hc, hn⟩ := Option.bind_eq_some_iff.1 hf
    exact ih (h.child? hc) hn

theorem evaluate (h : value.EveryElement p) (reference : Bind) :
    (reference.evaluate value).EveryElement p := by
  unfold Bind.evaluate
  cases hf : value.follow? reference.segments with
  | none => exact .null
  | some found => exact h.follow? hf

end EveryElement

end Value

end DeclaredUi
