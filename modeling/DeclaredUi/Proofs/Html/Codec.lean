import DeclaredUi.Proofs.Html

/-! Escaping and unescaping as a codec. Reading takes an escaped text off the front of
any markup and goes on with what follows it. A text is an escaped one exactly if it has
none of the characters that escaping removes and its ampersands all begin entities, for
such a text is made up of characters as they are escaped. -/

namespace DeclaredUi

namespace Html

/-! ## Reading what was written -/

theorem unescapeChars_escapeChar_append (c : Char) (rest : List Char) :
    unescapeChars (escapeChar c ++ rest) = c :: unescapeChars rest := by
  unfold escapeChar
  split_ifs with h₁ h₂ h₃ h₄ h₅
  · rw [h₁]; rfl
  · rw [h₂]; rfl
  · rw [h₃]; rfl
  · rw [h₄]; rfl
  · rw [h₅]; rfl
  · exact unescapeChars_cons h₁ rest

theorem unescapeChars_flatMap_append (text rest : List Char) :
    unescapeChars (text.flatMap escapeChar ++ rest) = text ++ unescapeChars rest := by
  induction text with
  | nil => rfl
  | cons c text ih =>
    rw [List.flatMap_cons, List.append_assoc, unescapeChars_escapeChar_append, ih]
    rfl

/-- Reading takes off an escaped text and goes on with the rest. -/
theorem unescape_escape_append (text rest : String) :
    unescape (escape text ++ rest) = text ++ unescape rest := by
  rw [← String.toList_inj, toList_unescape, String.toList_append, toList_escape,
    unescapeChars_flatMap_append, String.toList_append, toList_unescape]

theorem unescape_escape (text : String) : unescape (escape text) = text := by
  have h := unescape_escape_append text ""
  rwa [String.append_empty, show unescape "" = "" from rfl, String.append_empty] at h

/-! ## What is an escaped text -/

/-- Each entity is how some character is escaped. -/
theorem exists_escapeChar_eq {entity : String} (h : entity ∈ entities) :
    ∃ c, escapeChar c = entity.toList := by
  simp only [entities, List.mem_cons, List.not_mem_nil, or_false] at h
  rcases h with rfl | rfl | rfl | rfl | rfl
  · exact ⟨'&', rfl⟩
  · exact ⟨'<', rfl⟩
  · exact ⟨'>', rfl⟩
  · exact ⟨'"', rfl⟩
  · exact ⟨'\'', rfl⟩

namespace Escaped

/-- The condition on a text bears on every end of it. -/
theorem of_append {front back : List Char} (h : Escaped (String.ofList (front ++ back))) :
    Escaped (String.ofList back) := by
  obtain ⟨hplain, hentity⟩ := h
  rw [String.toList_ofList] at hplain hentity
  constructor
  · intro c hc
    rw [String.toList_ofList] at hc
    exact hplain c (List.mem_append_right front hc)
  · intro before rest hback
    rw [String.toList_ofList] at hback
    exact hentity (front ++ before) rest (by rw [hback, List.append_assoc])

/-- Such a text begins with a character as it is escaped. -/
theorem exists_eq_escapeChar_append {first : Char} {rest : List Char}
    (h : Escaped (String.ofList (first :: rest))) :
    ∃ c back, first :: rest = escapeChar c ++ back := by
  obtain ⟨hplain, hentity⟩ := h
  rw [String.toList_ofList] at hplain hentity
  by_cases hfirst : first = '&'
  · obtain rfl := hfirst
    obtain ⟨entity, he, back, hback⟩ := hentity [] rest rfl
    obtain ⟨c, hc⟩ := exists_escapeChar_eq he
    exact ⟨c, back, by rw [hc, hback]⟩
  · obtain ⟨hlt, hgt, hquot, hapos⟩ := hplain first List.mem_cons_self
    exact ⟨first, rest, by simp [escapeChar, hfirst, hlt, hgt, hquot, hapos]⟩

/-- Such a text is made up of characters as they are escaped. -/
theorem exists_flatMap_eq (chars : List Char) (h : Escaped (String.ofList chars)) :
    ∃ text : List Char, text.flatMap escapeChar = chars := by
  -- an entity is taken off in one step, so the induction is on what is left
  induction hlength : chars.length using Nat.strongRecOn generalizing chars with
  | ind length ih =>
    cases chars with
    | nil => exact ⟨[], rfl⟩
    | cons first rest =>
      obtain ⟨c, back, hback⟩ := h.exists_eq_escapeChar_append
      have hshorter : back.length < length := by
        have hc := length_escapeChar_pos c
        rw [← hlength, hback, List.length_append]
        omega
      rw [hback] at h
      obtain ⟨text, htext⟩ := ih back.length hshorter back h.of_append rfl
      exact ⟨c :: text, by rw [List.flatMap_cons, htext, hback]⟩

theorem exists_escape_eq {text : String} (h : Escaped text) : ∃ source, escape source = text := by
  rw [← String.ofList_toList (s := text)] at h
  obtain ⟨chars, hchars⟩ := exists_flatMap_eq text.toList h
  refine ⟨String.ofList chars, ?_⟩
  rw [escape, String.toList_ofList, hchars, String.ofList_toList]

end Escaped

/-- Escaping and unescaping are a codec. Unescaping takes back an escaped text in front of
any other, and escaping takes back unescaping for the texts that are escaped ones: those
without the characters that escaping removes and with no ampersand but before an entity. -/
theorem escape_unescape_codec :
    (∀ text rest, unescape (escape text ++ rest) = text ++ unescape rest) ∧
      ∀ text, ((∃ source, escape source = text) ↔ Escaped text) ∧
        (escape (unescape text) = text ↔ Escaped text) := by
  have hescaped : ∀ text, (∃ source, escape source = text) ↔ Escaped text := by
    intro text
    constructor
    · rintro ⟨source, rfl⟩
      exact escaped_escape source
    · exact Escaped.exists_escape_eq
  refine ⟨unescape_escape_append, fun text => ⟨hescaped text, ?_⟩⟩
  rw [← hescaped]
  constructor
  · intro h
    exact ⟨unescape text, h⟩
  · rintro ⟨source, rfl⟩
    rw [unescape_escape]

/-- The number of the apostrophe is read both ways and written one way. -/
example : unescape "&#x27;&amp;lt;&nbsp;&amp" = "'&lt;&nbsp;&amp" ∧
    escape (unescape "&#x27;") = "&#39;" := by decide

end Html

end DeclaredUi
