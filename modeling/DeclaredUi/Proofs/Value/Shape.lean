import DeclaredUi.Proofs.Html.Codec
import DeclaredUi.Proofs.Value.Alike
import DeclaredUi.Proofs.Value.Escape

/-! Escaping keeps the shape of a value. Whatever leads to a part of the value leads to the
same part of the escaped one, so looking up a path and escaping come to the same in either
order. An escaped value is the only one that has the shape of the value and its strings
escaped, and as strings can be unescaped, no two values are escaped to one. -/

namespace DeclaredUi

theorem Html.escape_injective : Function.Injective Html.escape :=
  Function.LeftInverse.injective Html.unescape_escape

theorem map_injective_of_mem {α β : Type} {f : α → β} {items others : List α}
    (hf : ∀ a ∈ items, ∀ b, f a = f b → a = b) (h : items.map f = others.map f) :
    items = others := by
  have hpairs : List.Forall₂ (fun a b => f a = f b) items others := by
    rw [← List.forall₂_eq_eq_eq] at h
    exact List.forall₂_map_left_iff.1 (List.forall₂_map_right_iff.1 h)
  rw [← List.forall₂_eq_eq_eq]
  exact forall₂_imp_of_mem hpairs fun a ha b _ => hf a ha b

namespace Value

/-! ## Paths -/

theorem child?_escapeHtml (value : Value) (segment : String) :
    value.escapeHtml.child? segment = (value.child? segment).map escapeHtml := by
  cases value with
  | object fields =>
    rw [escapeHtml, escapeFields_eq_mapValues]
    exact Fields.lookup_mapValues escapeHtml fields segment
  | array items =>
    rw [escapeHtml, escapeItems_eq_map, child?, child?]
    cases Bind.arrayIndex? segment with
    | none => rfl
    | some index => exact List.getElem?_map
  | _ => rfl

theorem follow?_escapeHtml (value : Value) (segments : List String) :
    value.escapeHtml.follow? segments = (value.follow? segments).map escapeHtml := by
  induction segments generalizing value with
  | nil => rfl
  | cons segment rest ih =>
    rw [follow?_cons, follow?_cons, child?_escapeHtml]
    cases value.child? segment with
    | none => rfl
    | some next => exact ih next

theorem evaluate_escapeHtml (reference : Bind) (value : Value) :
    reference.evaluate value.escapeHtml = (reference.evaluate value).escapeHtml := by
  unfold Bind.evaluate
  rw [follow?_escapeHtml]
  cases value.follow? reference.segments <;> rfl

/-! ## Shape -/

theorem kind_escapeHtml (value : Value) : value.escapeHtml.kind = value.kind := by
  cases value <;> rfl

/-- One value is the other but for its strings, which are escaped. -/
abbrev EscapedTo : Value → Value → Prop :=
  Alike (fun text escaped => escaped = Html.escape text) (· = ·)

theorem escapedTo_escapeHtml (value : Value) : EscapedTo value value.escapeHtml := by
  induction value using Value.byParts with
  | null => exact .null
  | bool value => exact .bool value
  | number value => exact .number value
  | string value => exact .string rfl
  | array items ih =>
    rw [escapeHtml, escapeItems_eq_map]
    exact .array (List.forall₂_map_right_iff.2 (List.forall₂_same.2 ih))
  | object fields ih =>
    rw [escapeHtml, escapeFields_eq_mapValues]
    exact .object (.mapValues_right ih)
  | element component => exact .element rfl
  | foreign value => exact .foreign value

/-- Nothing else has the shape of a value and its strings escaped. -/
theorem escapedTo_iff {value other : Value} :
    EscapedTo value other ↔ value.escapeHtml = other := by
  constructor
  · intro h
    refine Alike.byParts (motive := fun value other => value.escapeHtml = other) rfl
      (fun _ => rfl) (fun _ => rfl) ?string ?array ?object ?element (fun _ => rfl) h
    case string => exact fun text escaped hs => congrArg Value.string hs.symm
    case array =>
      intro items others _ ih
      have hitems : List.Forall₂ (· = ·) (items.map escapeHtml) others :=
        List.forall₂_map_left_iff.2 ih
      rw [List.forall₂_eq_eq_eq] at hitems
      rw [escapeHtml, escapeItems_eq_map, hitems]
    case object =>
      intro fields others _ ih
      rw [escapeHtml, escapeFields_eq_mapValues, ih.mapValues_eq]
    case element => exact fun a b hab => congrArg Value.element hab
  · rintro rfl
    exact escapedTo_escapeHtml value

/-! ## Telling escaped values apart -/

theorem escapeHtml_injective : Function.Injective escapeHtml := by
  intro value other h
  induction value using Value.byParts generalizing other with
  | string text =>
    cases other with
    | string text' => exact congrArg Value.string (Html.escape_injective (Value.string.inj h))
    | _ => cases h
  | array items ih =>
    cases other with
    | array others =>
      have hitems := Value.array.inj h
      rw [escapeItems_eq_map, escapeItems_eq_map] at hitems
      exact congrArg Value.array (map_injective_of_mem (fun item hm _ => @ih item hm _) hitems)
    | _ => cases h
  | object fields ih =>
    cases other with
    | object others =>
      have hfields := Value.object.inj h
      rw [escapeFields_eq_mapValues, escapeFields_eq_mapValues] at hfields
      refine congrArg Value.object (map_injective_of_mem (fun field hm other he => ?_) hfields)
      obtain ⟨hkey, hvalue⟩ := Prod.mk.inj he
      exact Prod.ext hkey (ih field hm hvalue)
    | _ => cases h
  | _ =>
    cases other with
    | string _ | array _ | object _ => cases h
    | _ => exact h

theorem beqItems_escapeHtml {items : List Value}
    (h : ∀ item ∈ items, ∀ other, beq item.escapeHtml (escapeHtml other) = beq item other)
    (others : List Value) :
    beqItems (items.map escapeHtml) (others.map escapeHtml) = beqItems items others := by
  induction items generalizing others with
  | nil => cases others <;> rfl
  | cons item rest ih =>
    cases others with
    | nil => rfl
    | cons other others =>
      have hrest := ih (fun item hm => h item (List.mem_cons_of_mem _ hm)) others
      rw [List.map_cons, List.map_cons, beqItems, beqItems, h item List.mem_cons_self, hrest]

theorem beqFields_escapeHtml {fields : List (String × Value)}
    (h : ∀ field ∈ fields, ∀ other, beq field.2.escapeHtml (escapeHtml other) = beq field.2 other)
    (others : List (String × Value)) :
    beqFields (Fields.mapValues escapeHtml fields) (Fields.mapValues escapeHtml others) =
      beqFields fields others := by
  induction fields with
  | nil => rfl
  | cons field rest ih =>
    have hrest := ih fun field hm => h field (List.mem_cons_of_mem _ hm)
    rw [Fields.mapValues, List.map_cons, ← Fields.mapValues, beqFields, beqFields,
      Fields.lookup_mapValues, hrest]
    cases others.lookup field.1 with
    | none => rfl
    | some found => exact congrArg (· && _) (h field List.mem_cons_self found)

/-- Escaping neither makes values equal nor tells equal ones apart, their keys in any order. -/
theorem beq_escapeHtml (value other : Value) :
    (value.escapeHtml == other.escapeHtml) = (value == other) := by
  change beq value.escapeHtml other.escapeHtml = beq value other
  induction value using Value.byParts generalizing other with
  | string text =>
    cases other with
    | string text' =>
      rw [escapeHtml, escapeHtml, beq, beq, Bool.eq_iff_iff, beq_iff_eq, beq_iff_eq,
        Html.escape_injective.eq_iff]
    | _ => rfl
  | array items ih =>
    cases other with
    | array others =>
      rw [escapeHtml, escapeHtml, escapeItems_eq_map, escapeItems_eq_map, beq, beq,
        beqItems_escapeHtml ih]
    | _ => rfl
  | object fields ih =>
    cases other with
    | object others =>
      rw [escapeHtml, escapeHtml, escapeFields_eq_mapValues, escapeFields_eq_mapValues, beq, beq,
        beqFields_escapeHtml ih, Fields.mapValues, Fields.mapValues, List.length_map,
        List.length_map]
    | _ => rfl
  | _ => cases other <;> rfl

/-- Escaping and looking up a path come to the same in either order. All that escaping
changes are strings: what a value is escaped to has its kinds, its keys and their order, its
lengths and its other leaves at every depth, and is the only value with these and with its
strings escaped. No two values are escaped to one, and none that differ in more than the
order of keys to values that do not. -/
theorem escapeHtml_keeps_shape :
    (∀ (reference : Bind) (value : Value),
      reference.evaluate value.escapeHtml = (reference.evaluate value).escapeHtml) ∧
    (∀ value other, EscapedTo value other ↔ value.escapeHtml = other) ∧
    (∀ value : Value, value.escapeHtml.kind = value.kind ∧
      value.escapeHtml.truthy = value.truthy) ∧
    Function.Injective escapeHtml ∧
    ∀ value other : Value, (value.escapeHtml == other.escapeHtml) = (value == other) :=
  ⟨evaluate_escapeHtml, fun _ _ => escapedTo_iff,
    fun value => ⟨kind_escapeHtml value, truthy_escapeHtml value⟩, escapeHtml_injective,
    beq_escapeHtml⟩

end Value

end DeclaredUi
