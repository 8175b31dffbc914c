import DeclaredUi.Proofs.Value.Keys

/-! Values that are written as a row of texts: `null`, booleans, numbers, strings and arrays
of these. Escaping is done character by character, and nothing but strings has a character
to escape, so the text of such a value once it is escaped is the escaped text. A map is
written with quotes of its own, which only escaping its text would reach. -/

namespace DeclaredUi

namespace Html

/-- Nothing in a number is escaped. -/
theorem escape_numeric {text : String} (h : Numeric text) : escape text = text := by
  have hself : ∀ c ∈ text.toList, escapeChar c = [c] := by
    intro c hc
    have hnumeric := List.all_eq_true.1 h c hc
    unfold escapeChar
    split_ifs with h₁ h₂ h₃ h₄ h₅
    · rw [h₁] at hnumeric; cases hnumeric
    · rw [h₂] at hnumeric; cases hnumeric
    · rw [h₃] at hnumeric; cases hnumeric
    · rw [h₄] at hnumeric; cases hnumeric
    · rw [h₅] at hnumeric; cases hnumeric
    · rfl
  rw [escape, List.flatMap_congr hself, List.flatMap_singleton', String.ofList_toList]

theorem escape_join (texts : List String) :
    escape (String.join texts) = String.join (texts.map escape) := by
  induction texts with
  | nil => rfl
  | cons text rest ih => rw [String.join_cons, escape_append, ih, List.map_cons, String.join_cons]

theorem escape_intercalate (separator : String) (texts : List String) :
    escape (separator.intercalate texts) = (escape separator).intercalate (texts.map escape) := by
  induction texts with
  | nil => simp [escape]
  | cons text rest ih =>
    cases rest with
    | nil => simp
    | cons next rest =>
      rw [String.intercalate_cons_cons, escape_append, escape_append, ih]
      simp only [List.map_cons, String.intercalate_cons_cons]

end Html

namespace Value

/-- Built of `null`, booleans, numbers, strings and arrays alone. -/
inductive Textual : Value → Prop
  | null : Textual .null
  | bool (value : Bool) : Textual (.bool value)
  | number (value : Number) : Textual (.number value)
  | string (value : String) : Textual (.string value)
  | array {items : List Value} : (∀ item ∈ items, Textual item) → Textual (.array items)

/-- Such a value comes to the same text escaped as its text is escaped. -/
theorem Textual.text_escapeHtml {value : Value} (h : value.Textual) :
    value.escapeHtml.text = Html.escape value.text := by
  induction h with
  | null => rfl
  | bool value => cases value <;> rfl
  | number value => exact (Html.escape_numeric value.numeric_text).symm
  | string value => rfl
  | @array items _ ih =>
    rw [escapeHtml, escapeItems_eq_map, text, text, textItems_eq_join, textItems_eq_join,
      Html.escape_join, List.map_map, List.map_map]
    exact congrArg String.join (List.map_congr_left ih)

theorem Textual.mem_intoItems {value item : Value} (h : value.Textual)
    (hm : item ∈ value.intoItems) : item.Textual := by
  have hvalue := h
  cases h with
  | null => cases hm
  | array hitems => exact hitems item hm
  | _ =>
    rw [List.mem_singleton.1 hm]
    exact hvalue

end Value

end DeclaredUi
