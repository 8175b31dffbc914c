import DeclaredUi.Html
import DeclaredUi.Json.Writer
import DeclaredUi.Text.Lines
import Mathlib.Data.List.Basic
import Mathlib.Logic.Function.Iterate
import Mathlib.Tactic.SplitIfs

/-! What escaping leaves of markup: no angle bracket, no quote, and no ampersand
but at the start of an entity. Writing a text between quotes or line by line
leaves its angle brackets where they are. A text that was changed by escaping has an
ampersand, so escaping it again changes it again. -/

namespace DeclaredUi

namespace Html

/-! ## Angle brackets -/

def isAngle (c : Char) : Bool := c = '<' ∨ c = '>'

/-- The angle brackets of a text, in order. -/
def angles (text : String) : List Char := text.toList.filter isAngle

theorem angles_append (a b : String) : angles (a ++ b) = angles a ++ angles b := by
  simp [angles]

theorem angles_ofList (text : List Char) : angles (String.ofList text) = text.filter isAngle := by
  simp [angles]

theorem angles_join (texts : List String) :
    angles (String.join texts) = texts.flatMap angles := by
  induction texts with
  | nil => rfl
  | cons text rest ih => rw [String.join_cons, angles_append, ih, List.flatMap_cons]

/-- The sequences for characters in a string are free of angle brackets. -/
theorem filter_jsonEscapeChar (c : Char) :
    (Json.escapeChar c).filter isAngle = [c].filter isAngle := by
  have hdigit : ∀ value < 16, isAngle (Json.hexDigit value) = false := by decide
  unfold Json.escapeChar
  split_ifs with h₁ h₂ h₃ h₄ h₅ h₆ h₇ h₈
  · rw [h₁]; rfl
  · rw [h₂]; rfl
  · rw [h₃]; rfl
  · rw [h₄]; rfl
  · rw [h₅]; rfl
  · rw [h₆]; rfl
  · rw [h₇]; rfl
  · have hc : isAngle c = false := by
      have hne : c ≠ '<' ∧ c ≠ '>' := ⟨by rintro rfl; simp at h₈, by rintro rfl; simp at h₈⟩
      simp [isAngle, hne]
    have hhigh := hdigit (c.toNat / 16) (by omega)
    have hlow := hdigit (c.toNat % 16) (by omega)
    simp only [List.filter_cons, hc, hhigh, hlow]
    rfl
  · rfl

theorem angles_quote (text : String) : angles (Json.quote text) = angles text := by
  have hbody : angles (String.ofList (text.toList.flatMap Json.escapeChar)) = angles text := by
    rw [angles_ofList, List.filter_flatMap]
    simp only [filter_jsonEscapeChar]
    rw [← List.filter_flatMap, List.flatMap_singleton', angles]
  rw [Json.quote, angles_append, angles_append, hbody]
  simp [angles, isAngle]

theorem angles_terminated (text : String) : angles (Lines.terminated text) = angles text := by
  unfold Lines.terminated
  split
  · rfl
  · rw [angles_append]
    exact List.append_nil _

theorem angles_escape (text : String) : angles (escape text) = [] := by
  have hchar : ∀ c, (escapeChar c).filter isAngle = [] := by
    intro c
    unfold escapeChar
    split_ifs with h₁ h₂ h₃ h₄ h₅
    · rfl
    · rfl
    · rfl
    · rfl
    · rfl
    · simp [isAngle, h₂, h₃]
  rw [escape, angles_ofList, List.filter_flatMap]
  simp [hchar]

/-! ## Entities -/

/-- The entities of the five characters. -/
def entities : List String := ["&amp;", "&lt;", "&gt;", "&quot;", "&#39;"]

/-- Text that can stand in markup as it is: none of the characters that markup gives
a meaning, but for ampersands that begin an entity. -/
structure Escaped (text : String) : Prop where
  plain : ∀ c ∈ text.toList, c ≠ '<' ∧ c ≠ '>' ∧ c ≠ '"' ∧ c ≠ '\''
  entity : ∀ before rest, text.toList = before ++ '&' :: rest →
    ∃ entity ∈ entities, entity.toList <+: '&' :: rest

/-- A character stands for itself or is written as an entity. -/
theorem escapeChar_cases (c : Char) :
    (∃ entity ∈ entities, escapeChar c = entity.toList) ∨
      escapeChar c = [c] ∧ c ≠ '&' ∧ c ≠ '<' ∧ c ≠ '>' ∧ c ≠ '"' ∧ c ≠ '\'' := by
  unfold escapeChar
  split_ifs with h₁ h₂ h₃ h₄ h₅
  · exact .inl ⟨"&amp;", by decide, rfl⟩
  · exact .inl ⟨"&lt;", by decide, rfl⟩
  · exact .inl ⟨"&gt;", by decide, rfl⟩
  · exact .inl ⟨"&quot;", by decide, rfl⟩
  · exact .inl ⟨"&#39;", by decide, rfl⟩
  · exact .inr ⟨rfl, h₁, h₂, h₃, h₄, h₅⟩

/-- An entity has its ampersand at the start and no other character of the five. -/
theorem toList_entity {entity : String} (h : entity ∈ entities) :
    ∃ body, entity.toList = '&' :: body ∧
      ∀ c ∈ body, c ≠ '&' ∧ c ≠ '<' ∧ c ≠ '>' ∧ c ≠ '"' ∧ c ≠ '\'' := by
  simp only [entities, List.mem_cons, List.not_mem_nil, or_false] at h
  rcases h with rfl | rfl | rfl | rfl | rfl
  · exact ⟨['a', 'm', 'p', ';'], rfl, by simp⟩
  · exact ⟨['l', 't', ';'], rfl, by simp⟩
  · exact ⟨['g', 't', ';'], rfl, by simp⟩
  · exact ⟨['q', 'u', 'o', 't', ';'], rfl, by simp⟩
  · exact ⟨['#', '3', '9', ';'], rfl, by simp⟩

theorem plain_of_mem_escapeChar {a c : Char} (h : c ∈ escapeChar a) :
    c ≠ '<' ∧ c ≠ '>' ∧ c ≠ '"' ∧ c ≠ '\'' := by
  rcases escapeChar_cases a with ⟨entity, he, ha⟩ | ⟨ha, -, hplain⟩
  · obtain ⟨body, hbody, hplain⟩ := toList_entity he
    rw [ha, hbody, List.mem_cons] at h
    rcases h with rfl | h
    · decide
    · exact (hplain c h).2
  · rw [ha, List.mem_singleton] at h
    rw [h]
    exact hplain

/-- An ampersand in an escaped character starts it, and then it is an entity. -/
theorem escapeChar_eq_append {a : Char} {before rest : List Char}
    (h : escapeChar a = before ++ '&' :: rest) :
    before = [] ∧ ∃ entity ∈ entities, entity.toList = '&' :: rest := by
  rcases escapeChar_cases a with ⟨entity, he, ha⟩ | ⟨ha, hne, -⟩
  · obtain ⟨body, hbody, hplain⟩ := toList_entity he
    rw [ha, hbody] at h
    cases before with
    | nil => exact ⟨rfl, entity, he, hbody.trans h⟩
    | cons b before =>
      obtain ⟨-, hrest⟩ := List.cons.inj h
      exact absurd rfl (hplain '&' (by rw [hrest]; simp)).1
  · rw [ha] at h
    cases before with
    | nil => exact absurd (List.cons.inj h).1 hne
    | cons b before =>
      obtain ⟨-, hnil⟩ := List.cons.inj h
      cases before <;> cases hnil

theorem entity_of_flatMap {text before rest : List Char}
    (h : text.flatMap escapeChar = before ++ '&' :: rest) :
    ∃ entity ∈ entities, entity.toList <+: '&' :: rest := by
  induction text generalizing before with
  | nil => cases before <;> cases h
  | cons a text ih =>
    -- the ampersand comes after the first escaped character, or lies in it
    rw [List.flatMap_cons, List.append_eq_append_iff] at h
    rcases h with ⟨before, -, h⟩ | ⟨middle, ha, h⟩
    · exact ih h
    · cases middle with
      | nil => exact ih ((List.nil_append _).trans h).symm
      | cons c middle =>
        obtain ⟨rfl, hrest⟩ := List.cons.inj h
        obtain ⟨-, entity, he, hentity⟩ := escapeChar_eq_append ha
        refine ⟨entity, he, ?_⟩
        rw [hentity, hrest]
        exact List.prefix_append ('&' :: middle) _

/-- Escaping makes any text such a text. -/
theorem escaped_escape (text : String) : Escaped (escape text) where
  plain c h := by
    rw [toList_escape] at h
    obtain ⟨a, -, h⟩ := List.mem_flatMap.1 h
    exact plain_of_mem_escapeChar h
  entity before rest h := entity_of_flatMap ((toList_escape text).symm.trans h)

theorem not_mem_escape {c : Char} (hc : c ∈ ['<', '>', '"', '\'']) (text : String) :
    c ∉ (escape text).toList := by
  intro hm
  obtain ⟨hless, hgreater, hquote, happostrophe⟩ := (escaped_escape text).plain c hm
  simp [hless, hgreater, hquote, happostrophe] at hc

/-! ## Escaping again -/

/-- A text that escaping changes has an ampersand afterwards. -/
theorem ampersand_mem_escape {text : String} (h : escape text ≠ text) :
    '&' ∈ (escape text).toList := by
  by_contra hnone
  apply h
  have hself : ∀ c ∈ text.toList, escapeChar c = [c] := by
    intro c hc
    rcases escapeChar_cases c with ⟨entity, he, hentity⟩ | ⟨hsame, -⟩
    · obtain ⟨body, hbody, -⟩ := toList_entity he
      refine absurd ?_ hnone
      rw [toList_escape]
      exact List.mem_flatMap.2 ⟨c, hc, by simp [hentity, hbody]⟩
    · exact hsame
  rw [escape, List.flatMap_congr hself, List.flatMap_singleton', String.ofList_toList]

theorem length_escapeChar_pos (c : Char) : 0 < (escapeChar c).length := by
  unfold escapeChar
  split_ifs <;> simp

theorem length_le_flatMap_escapeChar (text : List Char) :
    text.length ≤ (text.flatMap escapeChar).length := by
  induction text with
  | nil => exact Nat.le_refl 0
  | cons c rest ih =>
    have hc := length_escapeChar_pos c
    rw [List.flatMap_cons, List.length_append, List.length_cons]
    omega

/-- Every ampersand makes a text longer. -/
theorem length_lt_escape {text : String} (h : '&' ∈ text.toList) :
    text.toList.length < (escape text).toList.length := by
  obtain ⟨before, after, htext⟩ := List.append_of_mem h
  have hbefore := length_le_flatMap_escapeChar before
  have hafter := length_le_flatMap_escapeChar after
  rw [toList_escape, htext, List.flatMap_append, List.flatMap_cons]
  simp only [List.length_append, List.length_cons]
  have hampersand : (escapeChar '&').length = 5 := rfl
  omega

/-- Escaping more than once is escaping once only for a text with nothing to escape. -/
theorem iterate_escape_eq_iff (times : Nat) (text : String) :
    escape^[times + 1] text = escape text ↔ times = 0 ∨ escape text = text := by
  constructor
  · intro h
    by_cases hsame : escape text = text
    · exact .inr hsame
    · have hgrows : ∀ more, '&' ∈ (escape^[more + 1] text).toList ∧
          (escape text).toList.length + more ≤ (escape^[more + 1] text).toList.length := by
        intro more
        induction more with
        | zero =>
          rw [Nat.zero_add, Nat.add_zero, Function.iterate_one]
          exact ⟨ampersand_mem_escape hsame, Nat.le_refl _⟩
        | succ more ih =>
          have hlt := length_lt_escape ih.1
          rw [Function.iterate_succ_apply']
          refine ⟨ampersand_mem_escape fun heq => ?_, by omega⟩
          rw [heq] at hlt
          exact Nat.lt_irrefl _ hlt
      have hlength := (hgrows times).2
      rw [h] at hlength
      exact .inl (by omega)
  · intro h
    rcases h with rfl | hsame
    · rfl
    · rw [Function.iterate_succ_apply, hsame, Function.iterate_fixed hsame]

end Html

end DeclaredUi
