import DeclaredUi.Proofs.Value.Alike

/-! Texts of alike values. A relation of texts that survives writing them one
after the other and between quotes is carried from the strings of two alike
values to their texts, for arrays written without a separator and for objects
written as documents. -/

namespace DeclaredUi

/-- A relation of texts that putting texts together keeps. -/
structure Formatting (S : String → String → Prop) : Prop where
  refl (a : String) : S a a
  append {a b c d : String} : S a b → S c d → S (a ++ c) (b ++ d)
  quote {a b : String} : S a b → S (Json.quote a) (Json.quote b)

namespace Formatting

variable {S : String → String → Prop}

theorem join (hs : Formatting S) {texts others : List String} (h : List.Forall₂ S texts others) :
    S (String.join texts) (String.join others) := by
  induction h with
  | nil => exact hs.refl _
  | cons hab _ ih =>
    rw [String.join_cons, String.join_cons]
    exact hs.append hab ih

theorem intercalate (hs : Formatting S) {a b : String} (hab : S a b)
    {texts others : List String} (h : List.Forall₂ S texts others) :
    S (a.intercalate texts) (b.intercalate others) := by
  induction h with
  | nil => exact hs.refl _
  | cons hcd hrest ih =>
    cases hrest with
    | nil =>
      rw [String.intercalate_singleton, String.intercalate_singleton]
      exact hcd
    | cons _ _ =>
      rw [String.intercalate_cons_cons, String.intercalate_cons_cons]
      exact hs.append (hs.append hcd hab) ih

/-- Any two texts are related: the weakest such relation. -/
theorem trivial : Formatting fun _ _ => True :=
  ⟨fun _ => True.intro, fun _ _ => True.intro, fun _ => True.intro⟩

/-- Equal texts are related: the strongest such relation. -/
theorem eq : Formatting fun a b => a = b where
  refl _ := rfl
  append h h' := by rw [h, h']
  quote h := by rw [h]

end Formatting

namespace Value.Alike

variable {S : String → String → Prop} {I : Invocation → Invocation → Prop} {v w : Value}

/-- Alike values are written alike as documents. -/
theorem compact (hs : Formatting S) (hi : ∀ a b, I a b → S a.text b.text) (h : Alike S I v w) :
    S v.toJson.compact w.toJson.compact := by
  refine byParts (motive := fun v w => S v.toJson.compact w.toJson.compact) (hs.refl _)
    (fun _ => hs.refl _) (fun _ => hs.refl _) ?string ?array ?object ?element
    (fun _ => hs.refl _) h
  case string => exact fun a b hab => hs.quote hab
  case array =>
    intro items others _ ih
    simp only [Value.toJson, toJsonItems_eq_map, Json.compact, Json.compactItems_eq_map]
    refine hs.append (hs.append (hs.refl _) (hs.intercalate (hs.refl _) ?_)) (hs.refl _)
    rw [List.map_map, List.map_map]
    exact List.forall₂_map_left_iff.2 (List.forall₂_map_right_iff.2 ih)
  case object =>
    intro fields others hf ih
    clear hf
    simp only [Value.toJson, toJsonFields_eq_mapValues, Json.compact, Json.compactFields_eq_map]
    refine hs.append (hs.append (hs.refl _) (hs.intercalate (hs.refl _) ?_)) (hs.refl _)
    induction ih with
    | nil => exact .nil
    | cons hab _ ih => exact .cons (hs.append (hs.refl _) hab) ih
  case element => exact fun a b hab => hs.quote (hi a b hab)

/-- Alike values have related texts. -/
theorem text (hs : Formatting S) (hi : ∀ a b, I a b → S a.text b.text) (h : Alike S I v w) :
    S v.text w.text := by
  refine byParts (motive := fun v w => S v.text w.text) (hs.refl _) (fun _ => hs.refl _)
    (fun _ => hs.refl _) ?string ?array ?object ?element (fun _ => hs.refl _) h
  case string => exact fun a b hab => hab
  case array =>
    intro items others hitems ih
    clear hitems
    simp only [Value.text]
    induction ih with
    | nil => exact hs.refl _
    | cons hab _ ih => exact hs.append hab ih
  case object => exact fun fields others hf _ => (Alike.object hf).compact hs hi
  case element => exact hi

end Value.Alike

end DeclaredUi
