import DeclaredUi.Proofs.Number
import DeclaredUi.Proofs.Value.Escape
import DeclaredUi.Value.Path
import DeclaredUi.Value.Text

/-! What escaping leaves of the markup in a document. Its strings lose their angle
brackets and nothing else of it is written with any, but the keys of its maps are written
as they are. So the angle brackets in the text of an escaped document are those of its
keys, in the order of the document. -/

namespace DeclaredUi

namespace Html

theorem angles_numeric {text : String} (h : Numeric text) : angles text = [] := by
  refine List.filter_eq_nil_iff.2 fun c hc => ?_
  have hnumeric := List.all_eq_true.1 h c hc
  intro hangle
  rcases of_decide_eq_true hangle with rfl | rfl
  · cases hnumeric
  · cases hnumeric

theorem angles_intercalate {separator : String} (h : angles separator = []) (texts : List String) :
    angles (separator.intercalate texts) = texts.flatMap angles := by
  induction texts with
  | nil => rfl
  | cons text rest ih =>
    cases rest with
    | nil => simp
    | cons next rest =>
      rw [String.intercalate_cons_cons, angles_append, angles_append, h, ih]
      simp

end Html

namespace Json

mutual

/-- The keys of all maps in a document, each ahead of the keys below it. -/
def keys : Json → List String
  | .array items => keysOfItems items
  | .object fields => keysOfFields fields
  | _ => []

def keysOfItems : List Json → List String
  | [] => []
  | item :: rest => keys item ++ keysOfItems rest

def keysOfFields : List (String × Json) → List String
  | [] => []
  | (key, value) :: rest => key :: (keys value ++ keysOfFields rest)

end

@[simp] theorem keysOfItems_eq_flatMap (items : List Json) :
    keysOfItems items = items.flatMap keys := by
  induction items with
  | nil => rfl
  | cons item rest ih => simp [keysOfItems, ih]

@[simp] theorem keysOfFields_eq_flatMap (fields : List (String × Json)) :
    keysOfFields fields = fields.flatMap fun pair => pair.1 :: keys pair.2 := by
  induction fields with
  | nil => rfl
  | cons pair rest ih => simp [keysOfFields, ih]

end Json

namespace Value

/-- In a document inside a text the strings stand between quotes. -/
theorem angles_compact_escapeHtml (json : Json) :
    Html.angles (ofJson json).escapeHtml.toJson.compact = json.keys.flatMap Html.angles := by
  have hcomma : Html.angles "," = [] := rfl
  induction json using Json.byParts with
  | null => rfl
  | bool value => cases value <;> rfl
  | number value => exact Html.angles_numeric value.numeric_text
  | string value =>
    show Html.angles (Json.quote (Html.escape value)) = []
    rw [Html.angles_quote, Html.angles_escape]
  | array items ih =>
    have hitems : items.flatMap (fun item => Html.angles (ofJson item).escapeHtml.toJson.compact) =
        items.flatMap fun item => item.keys.flatMap Html.angles := List.flatMap_congr ih
    simp only [ofJson, ofJsonItems_eq_map, escapeHtml, escapeItems_eq_map, toJson,
      toJsonItems_eq_map, Json.compact, Json.compactItems_eq_map, Html.angles_append,
      Html.angles_intercalate hcomma, Json.keys, Json.keysOfItems_eq_flatMap, List.flatMap_map,
      hitems, List.flatMap_assoc]
    exact List.append_nil _
  | object fields ih =>
    have hfields : ∀ field ∈ fields, Html.angles field.1 ++ Html.angles ":" ++
        Html.angles (ofJson field.2).escapeHtml.toJson.compact =
          (field.1 :: field.2.keys).flatMap Html.angles := by
      intro field hm
      rw [ih field hm, List.flatMap_cons]
      exact congrArg (· ++ field.2.keys.flatMap Html.angles) (List.append_nil _)
    simp only [ofJson, ofJsonFields_eq_mapValues, escapeHtml, escapeFields_eq_mapValues, toJson,
      toJsonFields_eq_mapValues, Json.compact, Json.compactFields_eq_map, Html.angles_append,
      Html.angles_intercalate hcomma, Json.keys, Json.keysOfFields_eq_flatMap, List.flatMap_map,
      Fields.mapValues, List.flatMap_assoc, Html.angles_quote]
    exact (List.append_nil _).trans (List.flatMap_congr hfields)

theorem textItems_eq_join (items : List Value) :
    textItems items = String.join (items.map text) := by
  induction items with
  | nil => rfl
  | cons item rest ih => rw [textItems, List.map_cons, String.join_cons, ih]

/-- The angle brackets in the text of an escaped document are those of its keys. -/
theorem angles_text_escapeHtml (json : Json) :
    Html.angles (ofJson json).escapeHtml.text = json.keys.flatMap Html.angles := by
  induction json using Json.byParts with
  | null => rfl
  | bool value => cases value <;> rfl
  | number value => exact Html.angles_numeric value.numeric_text
  | string value => exact Html.angles_escape value
  | array items ih =>
    simp only [ofJson, ofJsonItems_eq_map, escapeHtml, escapeItems_eq_map, text,
      textItems_eq_join, Html.angles_join, Json.keys, Json.keysOfItems_eq_flatMap,
      List.flatMap_map, List.flatMap_assoc]
    exact List.flatMap_congr ih
  | object fields _ => exact angles_compact_escapeHtml (.object fields)

/-! ## Paths through a document -/

theorem child?_ofJson {json : Json} {segment : String} {found : Value}
    (h : (ofJson json).child? segment = some found) : ∃ part, found = ofJson part := by
  cases json with
  | object fields =>
    rw [ofJson, ofJsonFields_eq_mapValues, child?, Fields.lookup_mapValues] at h
    obtain ⟨part, -, rfl⟩ := Option.map_eq_some_iff.1 h
    exact ⟨part, rfl⟩
  | array items =>
    rw [ofJson, ofJsonItems_eq_map, child?] at h
    obtain ⟨index, -, hindex⟩ := Option.bind_eq_some_iff.1 h
    obtain ⟨part, -, rfl⟩ := List.mem_map.1 (List.mem_of_getElem? hindex)
    exact ⟨part, rfl⟩
  | _ => cases h

theorem follow?_ofJson {json : Json} {segments : List String} {found : Value}
    (h : (ofJson json).follow? segments = some found) : ∃ part, found = ofJson part := by
  induction segments generalizing json with
  | nil =>
    obtain rfl := Option.some.inj h
    exact ⟨json, rfl⟩
  | cons segment rest ih =>
    rw [follow?_cons] at h
    obtain ⟨next, hchild, hrest⟩ := Option.bind_eq_some_iff.1 h
    obtain ⟨part, rfl⟩ := child?_ofJson hchild
    exact ih hrest

/-- Whatever a path finds in a document is a document. -/
theorem evaluate_ofJson (reference : Bind) (env : Json) :
    ∃ found, reference.evaluate (ofJson env) = ofJson found := by
  unfold Bind.evaluate
  cases hf : (ofJson env).follow? reference.segments with
  | none => exact ⟨.null, rfl⟩
  | some found =>
    obtain ⟨part, rfl⟩ := follow?_ofJson hf
    exact ⟨part, rfl⟩

end Value

end DeclaredUi
