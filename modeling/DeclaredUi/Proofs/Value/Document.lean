import DeclaredUi.Proofs.Value.Keys

/-! Values as documents and back. A document comes back from being a value as it was, its
keys in their order. A value comes back from being a document if it holds no component and
no foreign value. These become strings of their text, so every value comes back with its
text: arrays are written item by item and maps as documents, and neither tells a string
from what it stands for. -/

namespace DeclaredUi

namespace Fields

variable {α β γ : Type}

theorem mapValues_mapValues (f : α → β) (g : β → γ) (fields : List (String × α)) :
    mapValues g (mapValues f fields) = mapValues (fun a => g (f a)) fields := by
  simp [mapValues]

/-- A change that leaves every value of the fields alone leaves the fields alone. -/
theorem mapValues_eq_self {f : α → α} {fields : List (String × α)}
    (h : ∀ field ∈ fields, f field.2 = field.2) : mapValues f fields = fields := by
  have hself : ∀ field ∈ fields, (field.1, f field.2) = field := by
    intro field hm
    rw [h field hm]
  rw [mapValues, List.map_congr_left hself, List.map_id']

end Fields

namespace Value

/-- Built of `null`, booleans, numbers, strings, arrays and maps alone. -/
inductive Plain : Value → Prop
  | null : Plain .null
  | bool (value : Bool) : Plain (.bool value)
  | number (value : Number) : Plain (.number value)
  | string (value : String) : Plain (.string value)
  | array {items : List Value} : (∀ item ∈ items, Plain item) → Plain (.array items)
  | object {fields : List (String × Value)} : (∀ field ∈ fields, Plain field.2) →
      Plain (.object fields)

theorem toJson_ofJson (json : Json) : (ofJson json).toJson = json := by
  induction json using Json.byParts with
  | array items ih =>
    have hitems : items.map (fun item => (ofJson item).toJson) = items := by
      rw [List.map_congr_left ih, List.map_id']
    simp only [ofJson, ofJsonItems_eq_map, toJson, toJsonItems_eq_map, List.map_map]
    exact congrArg Json.array hitems
  | object fields ih =>
    simp only [ofJson, ofJsonFields_eq_mapValues, toJson, toJsonFields_eq_mapValues,
      Fields.mapValues_mapValues]
    rw [Fields.mapValues_eq_self ih]
  | _ => rfl

theorem plain_ofJson (json : Json) : (ofJson json).Plain := by
  induction json using Json.byParts with
  | null => exact .null
  | bool value => exact .bool value
  | number value => exact .number value
  | string value => exact .string value
  | array items ih =>
    rw [ofJson, ofJsonItems_eq_map]
    exact .array (by simpa using ih)
  | object fields ih =>
    rw [ofJson, ofJsonFields_eq_mapValues]
    refine .object fun field hm => ?_
    obtain ⟨original, ho, rfl⟩ := List.mem_map.1 hm
    exact ih original ho

theorem Plain.ofJson_toJson {value : Value} (h : value.Plain) : ofJson value.toJson = value := by
  induction h with
  | @array items _ ih =>
    have hitems : items.map (fun item => ofJson item.toJson) = items := by
      rw [List.map_congr_left ih, List.map_id']
    simp only [toJson, toJsonItems_eq_map, ofJson, ofJsonItems_eq_map, List.map_map]
    exact congrArg Value.array hitems
  | @object fields _ ih =>
    simp only [toJson, toJsonFields_eq_mapValues, ofJson, ofJsonFields_eq_mapValues,
      Fields.mapValues_mapValues]
    rw [Fields.mapValues_eq_self ih]
  | _ => rfl

theorem ofJson_toJson_iff {value : Value} : ofJson value.toJson = value ↔ value.Plain := by
  constructor
  · intro h
    rw [← h]
    exact plain_ofJson value.toJson
  · exact Plain.ofJson_toJson

/-- What the strings stand for is lost on the way through a document, but not what is
written. -/
theorem text_ofJson_toJson (value : Value) : (ofJson value.toJson).text = value.text := by
  induction value using Value.byParts with
  | array items ih =>
    have hitems : items.map (fun item => (ofJson item.toJson).text) = items.map text :=
      List.map_congr_left ih
    simp only [toJson, toJsonItems_eq_map, ofJson, ofJsonItems_eq_map, text, textItems_eq_join,
      List.map_map]
    exact congrArg String.join hitems
  | object fields _ =>
    -- A map is written as the document that it is, and that is the same the second time.
    exact congrArg Json.compact (toJson_ofJson (object fields).toJson)
  | _ => rfl

/-- Documents are exact as values, plain values are exact as documents and no others are, the
keys of every map in their order, and every value keeps its text. -/
theorem document_conversion :
    (∀ json : Json, (ofJson json).toJson = json) ∧
    (∀ value : Value, ofJson value.toJson = value ↔ value.Plain) ∧
    ∀ value : Value, (ofJson value.toJson).text = value.text :=
  ⟨toJson_ofJson, fun _ => ofJson_toJson_iff, text_ofJson_toJson⟩

end Value

end DeclaredUi
