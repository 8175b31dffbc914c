import Mathlib.Data.List.Forall2
import DeclaredUi.Value.Text

/-! Documents, trees and values hold lists of themselves. The inductions here
hand out a hypothesis for every item and field, so that no proof has to go
through the lists on its own, and `Fields.Forall₂` relates two maps that have the
same keys in the same order. -/

namespace DeclaredUi

/-- A list has a related list exactly when each of its items has a related item. -/
theorem exists_forall₂_iff {α β : Type} {R : α → β → Prop} {items : List α} :
    (∃ others, List.Forall₂ R items others) ↔ ∀ a ∈ items, ∃ b, R a b := by
  induction items with
  | nil => simp
  | cons a rest ih =>
    rw [List.forall_mem_cons, ← ih]
    constructor
    · rintro ⟨_, h⟩
      obtain _ | ⟨hab, hrest⟩ := h
      exact ⟨⟨_, hab⟩, _, hrest⟩
    · rintro ⟨⟨b, hab⟩, others, hrest⟩
      exact ⟨b :: others, .cons hab hrest⟩

theorem exists_mem_of_forall₂ {α β : Type} {R : α → β → Prop} {items : List α}
    {others : List β} (h : List.Forall₂ R items others) {b : β} (hb : b ∈ others) :
    ∃ a ∈ items, R a b := by
  induction h with
  | nil => cases hb
  | @cons a c _ _ hac _ ih =>
    rcases List.mem_cons.1 hb with rfl | hb
    · exact ⟨a, List.mem_cons_self, hac⟩
    · obtain ⟨other, hm, hr⟩ := ih hb
      exact ⟨other, List.mem_cons_of_mem _ hm, hr⟩

/-- In each place of two related lists there are related items, or none in either. -/
theorem getElem?_rel_of_forall₂ {α β : Type} {R : α → β → Prop} {items : List α}
    {others : List β} (h : List.Forall₂ R items others) (place : Nat) :
    Option.Rel R items[place]? others[place]? := by
  induction h generalizing place with
  | nil => exact .none
  | cons hab _ ih =>
    cases place with
    | zero => exact .some hab
    | succ place => simpa using ih place

/-- In each place of the other list there is an item related to one in that place. -/
theorem getElem?_of_forall₂ {α β : Type} {R : α → β → Prop} {items : List α} {others : List β}
    (h : List.Forall₂ R items others) {place : Nat} {b : β} (hb : others[place]? = some b) :
    ∃ a, items[place]? = some a ∧ R a b := by
  have hrel := getElem?_rel_of_forall₂ h place
  rw [hb] at hrel
  generalize items[place]? = found at hrel ⊢
  cases hrel with
  | some hab => exact ⟨_, rfl, hab⟩

theorem forall₂_imp_of_mem {α β : Type} {R S : α → β → Prop} {items : List α} {others : List β}
    (h : List.Forall₂ R items others) (hi : ∀ a ∈ items, ∀ b ∈ others, R a b → S a b) :
    List.Forall₂ S items others := by
  induction h with
  | nil => exact .nil
  | cons hab _ ih =>
    refine .cons (hi _ List.mem_cons_self _ List.mem_cons_self hab) (ih fun a ha b hb => ?_)
    exact hi a (List.mem_cons_of_mem _ ha) b (List.mem_cons_of_mem _ hb)

/-- Two lists that one list is related to are related through its items. -/
theorem forall₂_through {α β γ : Type} {R : α → β → Prop} {S : α → γ → Prop} {items : List α}
    {others : List β} {thirds : List γ} (h : List.Forall₂ R items others)
    (hs : List.Forall₂ S items thirds) :
    List.Forall₂ (fun b c => ∃ a, R a b ∧ S a c) others thirds := by
  induction h generalizing thirds with
  | nil =>
    cases hs
    exact .nil
  | cons hab _ ih =>
    obtain _ | ⟨hac, hrest⟩ := hs
    exact .cons ⟨_, hab, hac⟩ (ih hrest)

theorem except_bind_ok_iff {ε α β : Type} {x : Except ε α} {next : α → Except ε β} {b : β} :
    x >>= next = .ok b ↔ ∃ a, x = .ok a ∧ next a = .ok b := by
  cases x with
  | ok a =>
    constructor
    · intro h
      exact ⟨a, rfl, h⟩
    · rintro ⟨_, ha, h⟩
      obtain rfl := Except.ok.inj ha
      exact h
  | error stop =>
    constructor
    · intro h
      cases h
    · rintro ⟨_, ha, -⟩
      cases ha

theorem except_bind_ne {ε α β : Type} {stop : ε} {x : Except ε α} {next : α → Except ε β}
    (h : x ≠ .error stop) (hn : ∀ a, x = .ok a → next a ≠ .error stop) :
    x >>= next ≠ .error stop := by
  cases x with
  | ok a => exact hn a rfl
  | error other =>
    intro he
    exact h (congrArg Except.error (Except.error.inj he))

namespace Fields

variable {α β γ δ : Type}

/-- The value of a field is smaller than the fields. -/
theorem sizeOf_value_lt [SizeOf α] {fields : List (String × α)} {pair : String × α}
    (h : pair ∈ fields) : sizeOf pair.2 < sizeOf fields := by
  have hs := List.sizeOf_lt_of_mem h
  have hp : sizeOf pair = 1 + sizeOf pair.1 + sizeOf pair.2 := rfl
  omega

theorem mem_of_lookup {fields : List (String × α)} {key : String} {a : α}
    (h : fields.lookup key = some a) : (key, a) ∈ fields := by
  obtain ⟨before, after, rfl, -⟩ := List.lookup_eq_some_iff.1 h
  simp

theorem lookup_eq_none_iff {fields : List (String × α)} {key : String} :
    fields.lookup key = none ↔ key ∉ keys fields := by
  rw [List.lookup_eq_none_iff, keys, List.mem_map, not_exists]
  refine forall_congr' fun pair => ?_
  rw [not_and, bne_iff_ne, ne_comm]

theorem isSome_lookup_iff {fields : List (String × α)} {key : String} :
    (fields.lookup key).isSome ↔ key ∈ keys fields := by
  rw [← not_iff_not, ← lookup_eq_none_iff, Option.not_isSome_iff_eq_none]

/-- Where no key occurs twice, every field is found under its key. -/
theorem lookup_of_mem {fields : List (String × α)} (hu : Unique fields) {field : String × α}
    (hm : field ∈ fields) : fields.lookup field.1 = some field.2 := by
  induction fields with
  | nil => cases hm
  | cons first rest ih =>
    obtain ⟨hfirst, hrest⟩ := List.nodup_cons.1 hu
    rw [List.lookup_cons]
    rcases List.mem_cons.1 hm with rfl | hm
    · simp
    · have hne : field.1 ≠ first.1 := by
        intro he
        exact hfirst (he ▸ List.mem_map_of_mem hm)
      rw [beq_eq_false_iff_ne.2 hne]
      exact ih hrest hm

theorem mem_insert {fields : List (String × α)} {key : String} {value : α} {field : String × α}
    (h : field ∈ Fields.insert key value fields) : field = (key, value) ∨ field ∈ fields := by
  induction fields with
  | nil => exact .inl (List.mem_singleton.1 h)
  | cons first rest ih =>
    rw [Fields.insert] at h
    split at h
    · rcases List.mem_cons.1 h with h | h
      · exact .inl h
      · exact .inr (List.mem_cons_of_mem _ h)
    · rcases List.mem_cons.1 h with rfl | h
      · exact .inr List.mem_cons_self
      · exact (ih h).imp id (List.mem_cons_of_mem _)

/-- Equal keys in equal places, with related values. -/
inductive Forall₂ (R : α → β → Prop) : List (String × α) → List (String × β) → Prop
  | nil : Forall₂ R [] []
  | cons {key : String} {a : α} {b : β} {fields : List (String × α)}
      {others : List (String × β)} :
      R a b → Forall₂ R fields others → Forall₂ R ((key, a) :: fields) ((key, b) :: others)

namespace Forall₂

variable {R : α → β → Prop} {fields : List (String × α)} {others : List (String × β)}

theorem imp {S : α → β → Prop} (h : Forall₂ R fields others) (hi : ∀ a b, R a b → S a b) :
    Forall₂ S fields others := by
  induction h with
  | nil => exact .nil
  | cons ha _ ih => exact .cons (hi _ _ ha) ih

theorem mapValues {f : α → γ} {g : β → δ} {S : γ → δ → Prop} (h : Forall₂ R fields others)
    (hi : ∀ a b, R a b → S (f a) (g b)) :
    Forall₂ S (Fields.mapValues f fields) (Fields.mapValues g others) := by
  induction h with
  | nil => exact .nil
  | cons ha _ ih => exact .cons (hi _ _ ha) ih

theorem exists_mem (h : Forall₂ R fields others) {other : String × β} (hm : other ∈ others) :
    ∃ field ∈ fields, field.1 = other.1 ∧ R field.2 other.2 := by
  induction h with
  | nil => cases hm
  | cons hab _ ih =>
    rcases List.mem_cons.1 hm with rfl | hm
    · exact ⟨_, List.mem_cons_self, rfl, hab⟩
    · obtain ⟨field, hf, hr⟩ := ih hm
      exact ⟨field, List.mem_cons_of_mem _ hf, hr⟩

theorem lookup (h : Forall₂ R fields others) (key : String) :
    Option.Rel R (fields.lookup key) (others.lookup key) := by
  induction h with
  | nil => exact .none
  | @cons k a b _ _ ha _ ih =>
    rw [List.lookup_cons, List.lookup_cons]
    cases hk : key == k with
    | true => exact .some ha
    | false => exact ih

theorem insert {a : α} {b : β} (h : Forall₂ R fields others) (key : String) (hab : R a b) :
    Forall₂ R (Fields.insert key a fields) (Fields.insert key b others) := by
  induction h with
  | nil => exact .cons hab .nil
  | @cons k _ _ _ _ ha hrest ih =>
    simp only [Fields.insert]
    split
    · exact .cons hab hrest
    · exact .cons ha ih

/-- Fields with equal values in equal places are equal. -/
theorem eq {fields others : List (String × α)} (h : Forall₂ (· = ·) fields others) :
    fields = others := by
  induction h with
  | nil => rfl
  | cons ha _ ih => rw [ha, ih]

/-- Fields whose values are the images of others are the image of these. -/
theorem mapValues_eq {f : α → β} (h : Forall₂ (fun a b => f a = b) fields others) :
    Fields.mapValues f fields = others := by
  induction h with
  | nil => rfl
  | cons ha _ ih => rw [Fields.mapValues, List.map_cons, ha, ← ih, Fields.mapValues]

/-- Relating every value to itself relates the fields to themselves. -/
theorem refl {R : α → α → Prop} {fields : List (String × α)}
    (h : ∀ pair ∈ fields, R pair.2 pair.2) : Forall₂ R fields fields := by
  induction fields with
  | nil => exact .nil
  | cons pair rest ih =>
    exact .cons (h pair (by simp)) (ih fun other hm => h other (List.mem_cons_of_mem _ hm))

/-- If every value is related to one, the fields are related to fields of these. -/
theorem exists_of_forall {R : α → β → Prop} {fields : List (String × α)}
    (h : ∀ pair ∈ fields, ∃ b, R pair.2 b) : ∃ others, Forall₂ R fields others := by
  induction fields with
  | nil => exact ⟨[], .nil⟩
  | cons pair rest ih =>
    obtain ⟨b, hb⟩ := h pair List.mem_cons_self
    obtain ⟨others, hothers⟩ := ih fun other hm => h other (List.mem_cons_of_mem _ hm)
    exact ⟨(pair.1, b) :: others, .cons hb hothers⟩

/-- Relating every value to its image relates the fields to their image. -/
theorem mapValues_right {R : α → β → Prop} {f : α → β} {fields : List (String × α)}
    (h : ∀ pair ∈ fields, R pair.2 (f pair.2)) : Forall₂ R fields (Fields.mapValues f fields) := by
  induction fields with
  | nil => exact .nil
  | cons pair rest ih =>
    exact .cons (h pair (by simp)) (ih fun other hm => h other (List.mem_cons_of_mem _ hm))

end Forall₂

end Fields

/-- Induction on a document by its items and fields. -/
@[elab_as_elim]
theorem Json.byParts {motive : Json → Prop} (null : motive .null)
    (bool : ∀ value, motive (.bool value)) (number : ∀ value, motive (.number value))
    (string : ∀ value, motive (.string value))
    (array : ∀ items, (∀ item ∈ items, motive item) → motive (.array items))
    (object : ∀ fields, (∀ pair ∈ fields, motive pair.2) → motive (.object fields)) :
    ∀ json, motive json
  | .null => null
  | .bool value => bool value
  | .number value => number value
  | .string value => string value
  | .array items => array items fun item _ =>
      Json.byParts null bool number string array object item
  | .object fields => object fields fun pair hm =>
      have := Fields.sizeOf_value_lt hm
      Json.byParts null bool number string array object pair.2

/-- Induction on a tree by its configs, items and fields. -/
@[elab_as_elim]
theorem Node.byParts {motive : Node → Prop} (bind : ∀ reference, motive (.bind reference))
    (invocation : ∀ role name plugin config declaration, motive config →
      motive (.invocation role name plugin config declaration))
    (map : ∀ fields, (∀ pair ∈ fields, motive pair.2) → motive (.map fields))
    (sequence : ∀ items, (∀ item ∈ items, motive item) → motive (.sequence items))
    (scalar : ∀ value, motive (.scalar value)) : ∀ node, motive node
  | .bind reference => bind reference
  | .invocation role name plugin config declaration =>
    invocation role name plugin config declaration
      (Node.byParts bind invocation map sequence scalar config)
  | .map fields => map fields fun pair hm =>
      have := Fields.sizeOf_value_lt hm
      Node.byParts bind invocation map sequence scalar pair.2
  | .sequence items => sequence items fun item _ =>
      Node.byParts bind invocation map sequence scalar item
  | .scalar value => scalar value

/-- Induction on a value by its items and fields. -/
@[elab_as_elim]
theorem Value.byParts {motive : Value → Prop} (null : motive .null)
    (bool : ∀ value, motive (.bool value)) (number : ∀ value, motive (.number value))
    (string : ∀ value, motive (.string value))
    (array : ∀ items, (∀ item ∈ items, motive item) → motive (.array items))
    (object : ∀ fields, (∀ pair ∈ fields, motive pair.2) → motive (.object fields))
    (element : ∀ component, motive (.element component))
    (foreign : ∀ value, motive (.foreign value)) : ∀ value, motive value
  | .null => null
  | .bool value => bool value
  | .number value => number value
  | .string value => string value
  | .array items => array items fun item _ =>
      Value.byParts null bool number string array object element foreign item
  | .object fields => object fields fun pair hm =>
      have := Fields.sizeOf_value_lt hm
      Value.byParts null bool number string array object element foreign pair.2
  | .element component => element component
  | .foreign value => foreign value

end DeclaredUi
