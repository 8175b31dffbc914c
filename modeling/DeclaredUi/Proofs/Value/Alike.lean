import DeclaredUi.Proofs.Parts
import DeclaredUi.Value.Path

/-! Values of one shape. `Alike strings elements` relates values that have the same
kinds, keys, lengths, numbers and truth values everywhere, strings that `strings`
relates and components that `elements` relates. Whatever reads a value by its
shape keeps the relation: look-up, paths, truthiness and the change of every
string. With equal strings and equal components it is equality. -/

namespace DeclaredUi

namespace Value

section

variable {R : Value → Value → Prop} {v w : Value}

/-- Where a step leads on from related values to related ones, so does a path. -/
theorem follow?_rel
    (step : ∀ {a b : Value}, R a b → ∀ segment, Option.Rel R (a.child? segment) (b.child? segment))
    (h : R v w) (segments : List String) :
    Option.Rel R (v.follow? segments) (w.follow? segments) := by
  induction segments generalizing v w with
  | nil => exact .some h
  | cons segment rest ih =>
    rw [follow?_cons, follow?_cons]
    have hc := step h segment
    generalize v.child? segment = a, w.child? segment = b at hc
    cases hc with
    | none => exact .none
    | some hab => exact ih hab

theorem evaluate_rel
    (step : ∀ {a b : Value}, R a b → ∀ segment, Option.Rel R (a.child? segment) (b.child? segment))
    (null : R .null .null) (h : R v w) (reference : Bind) :
    R (reference.evaluate v) (reference.evaluate w) := by
  unfold Bind.evaluate
  have hend := follow?_rel step h reference.segments
  generalize v.follow? reference.segments = a, w.follow? reference.segments = b at hend
  cases hend with
  | none => exact null
  | some hab => exact hab

end

/-- Two values of one shape, their strings and components related in pairs. -/
inductive Alike (strings : String → String → Prop)
    (elements : Invocation → Invocation → Prop) : Value → Value → Prop
  | null : Alike strings elements .null .null
  | bool (value : Bool) : Alike strings elements (.bool value) (.bool value)
  | number (value : Number) : Alike strings elements (.number value) (.number value)
  | string {a b : String} : strings a b → Alike strings elements (.string a) (.string b)
  | array {items others : List Value} :
      List.Forall₂ (Alike strings elements) items others →
      Alike strings elements (.array items) (.array others)
  | object {fields others : List (String × Value)} :
      Fields.Forall₂ (Alike strings elements) fields others →
      Alike strings elements (.object fields) (.object others)
  | element {a b : Invocation} : elements a b → Alike strings elements (.element a) (.element b)
  | foreign (value : Foreign) : Alike strings elements (.foreign value) (.foreign value)

namespace Alike

variable {S T : String → String → Prop} {I J : Invocation → Invocation → Prop} {v w : Value}

/-- Induction on a pair of alike values by the pairs of their items and fields. -/
@[elab_as_elim]
theorem byParts {motive : Value → Value → Prop} (null : motive .null .null)
    (bool : ∀ value, motive (.bool value) (.bool value))
    (number : ∀ value, motive (.number value) (.number value))
    (string : ∀ a b, S a b → motive (.string a) (.string b))
    (array : ∀ items others, List.Forall₂ (Alike S I) items others →
      List.Forall₂ motive items others → motive (.array items) (.array others))
    (object : ∀ fields others, Fields.Forall₂ (Alike S I) fields others →
      Fields.Forall₂ motive fields others → motive (.object fields) (.object others))
    (element : ∀ a b, I a b → motive (.element a) (.element b))
    (foreign : ∀ value, motive (.foreign value) (.foreign value)) (h : Alike S I v w) :
    motive v w :=
  @Alike.rec S I (fun a b _ => motive a b)
    (fun items others _ => List.Forall₂ motive items others)
    (fun fields others _ => Fields.Forall₂ motive fields others)
    null bool number (string _ _) (array _ _) (object _ _) (element _ _) foreign
    .nil (fun _ _ ih ihs => .cons ih ihs) .nil (fun _ _ ih ihs => .cons ih ihs) v w h

theorem imp (h : Alike S I v w) (hs : ∀ a b, S a b → T a b) (hi : ∀ a b, I a b → J a b) :
    Alike T J v w := by
  refine byParts .null .bool .number ?string ?array ?object ?element .foreign h
  case string => exact fun a b hab => .string (hs a b hab)
  case array => exact fun _ _ _ ih => .array ih
  case object => exact fun _ _ _ ih => .object ih
  case element => exact fun a b hab => .element (hi a b hab)

/-- Alike with equal strings and equal components is equal. -/
theorem eq (hi : ∀ a b, I a b → a = b) (h : Alike (· = ·) I v w) : v = w := by
  refine byParts rfl (fun _ => rfl) (fun _ => rfl) ?string ?array ?object ?element
    (fun _ => rfl) h
  case string => exact fun a b hab => congrArg Value.string hab
  case array =>
    intro items others _ ih
    rw [List.forall₂_eq_eq_eq] at ih
    rw [ih]
  case object =>
    intro fields others _ ih
    rw [ih.eq]
  case element => exact fun a b hab => congrArg Value.element (hi a b hab)

/-- A document is alike to itself. -/
theorem ofJson (hs : ∀ a, S a a) (json : Json) : Alike S I (.ofJson json) (.ofJson json) := by
  induction json using Json.byParts with
  | null => exact .null
  | bool value => exact .bool value
  | number value => exact .number value
  | string value => exact .string (hs value)
  | array items ih =>
    rw [Value.ofJson, ofJsonItems_eq_map]
    exact .array (List.forall₂_map_left_iff.2 (List.forall₂_map_right_iff.2
      (List.forall₂_same.2 ih)))
  | object fields ih =>
    rw [Value.ofJson, ofJsonFields_eq_mapValues]
    refine .object (Fields.Forall₂.refl fun pair hm => ?_)
    obtain ⟨field, hf, rfl⟩ := List.mem_map.1 hm
    exact ih field hf

/-- Escaping keeps the shape. -/
theorem escapeHtml (hs : ∀ a b, S a b → T (Html.escape a) (Html.escape b))
    (h : Alike S I v w) : Alike T I v.escapeHtml w.escapeHtml := by
  refine byParts (motive := fun v w => Alike T I v.escapeHtml w.escapeHtml)
    .null .bool .number ?string ?array ?object ?element .foreign h
  case string => exact fun a b hab => .string (hs a b hab)
  case array =>
    intro items others _ ih
    simp only [Value.escapeHtml, escapeItems_eq_map]
    exact .array (List.forall₂_map_left_iff.2 (List.forall₂_map_right_iff.2 ih))
  case object =>
    intro fields others _ ih
    simp only [Value.escapeHtml, escapeFields_eq_mapValues]
    exact .object (ih.mapValues fun _ _ hab => hab)
  case element => exact fun a b hab => .element hab

/-! ## Reading by shape -/

theorem truthy_eq (h : Alike S I v w) : v.truthy = w.truthy := by
  cases h <;> rfl

theorem get? (h : Alike S I v w) (key : String) :
    Option.Rel (Alike S I) (v.get? key) (w.get? key) := by
  cases h with
  | object hf => exact hf.lookup key
  | _ => exact .none

theorem getD {a b : Option Value} (h : Option.Rel (Alike S I) a b) :
    Alike S I (a.getD .null) (b.getD .null) := by
  cases h with
  | none => exact .null
  | some hab => exact hab

theorem getOrNull (h : Alike S I v w) (key : String) :
    Alike S I (v.getOrNull key) (w.getOrNull key) :=
  getD (h.get? key)

theorem firstTruthy? (h : Alike S I v w) (keys : List String) :
    Option.Rel (Alike S I) (v.firstTruthy? keys) (w.firstTruthy? keys) := by
  induction keys with
  | nil => exact .none
  | cons key rest ih =>
    unfold Value.firstTruthy? at ih ⊢
    rw [List.filterMap_cons, List.filterMap_cons]
    have hk := h.get? key
    generalize v.get? key = a, w.get? key = b at hk
    cases hk with
    | none => exact ih
    | some hab =>
      simp only [List.find?_cons, hab.truthy_eq]
      split
      · exact .some hab
      · exact ih

theorem firstTruthy (h : Alike S I v w) (keys : List String) :
    Alike S I (v.firstTruthy keys) (w.firstTruthy keys) :=
  getD (h.firstTruthy? keys)

theorem intoItems (h : Alike S I v w) : List.Forall₂ (Alike S I) v.intoItems w.intoItems := by
  cases h with
  | null => exact .nil
  | array hi => exact hi
  | bool value => exact .cons (.bool value) .nil
  | number value => exact .cons (.number value) .nil
  | string hab => exact .cons (.string hab) .nil
  | object hf => exact .cons (.object hf) .nil
  | element hab => exact .cons (.element hab) .nil
  | foreign value => exact .cons (.foreign value) .nil

theorem fieldsOrEmpty (h : Alike S I v w) :
    Fields.Forall₂ (Alike S I) v.fieldsOrEmpty w.fieldsOrEmpty := by
  cases h with
  | object hf => exact hf
  | _ => exact .nil

theorem child? (h : Alike S I v w) (segment : String) :
    Option.Rel (Alike S I) (v.child? segment) (w.child? segment) := by
  cases h with
  | object hf => exact hf.lookup segment
  | @array items others hi =>
    simp only [Value.child?]
    cases Bind.arrayIndex? segment with
    | none => exact .none
    | some index => exact getElem?_rel_of_forall₂ hi index
  | _ => exact .none

theorem follow? (h : Alike S I v w) (segments : List String) :
    Option.Rel (Alike S I) (v.follow? segments) (w.follow? segments) :=
  follow?_rel child? h segments

theorem evaluate (h : Alike S I v w) (bind : Bind) :
    Alike S I (bind.evaluate v) (bind.evaluate w) :=
  evaluate_rel child? .null h bind

end Alike

end Value

end DeclaredUi
