import DeclaredUi.Node.Basic
import DeclaredUi.Proofs.Parts
import Mathlib.Data.List.Nodup
import Mathlib.Data.List.Perm.Subperm

/-! Equality up to the order of keys. Two maps are equal if they have the same keys with
equal values under them, so the fields of one can be put in the order of the other and
compared in pairs. -/

namespace DeclaredUi

/-- Lists that are equal item by item are related item by item. -/
theorem isEqv_iff_forall₂ {α : Type} {eq : α → α → Bool} {items others : List α} :
    items.isEqv others eq = true ↔ List.Forall₂ (fun a b => eq a b = true) items others := by
  induction items generalizing others with
  | nil => cases others <;> simp
  | cons item rest ih => cases others <;> simp [List.isEqv, ih]

namespace Fields

variable {α β γ : Type}

/-- Equal keys with related values, whatever their order. -/
def Matched (R : α → β → Prop) (fields : List (String × α)) (others : List (String × β)) : Prop :=
  ∃ middle, Forall₂ R fields middle ∧ middle.Perm others

theorem Forall₂.keys_eq {R : α → β → Prop} {fields : List (String × α)}
    {others : List (String × β)} (h : Forall₂ R fields others) : keys fields = keys others := by
  induction h with
  | nil => rfl
  | cons _ _ ih => rw [keys_cons, keys_cons, ih]

theorem lookup_eq_of_perm {fields others : List (String × α)} (h : fields.Perm others)
    (hu : Unique others) (key : String) : fields.lookup key = others.lookup key := by
  cases hl : fields.lookup key with
  | none =>
    have hkey : key ∉ keys others := by
      intro hm
      exact lookup_eq_none_iff.1 hl ((h.map Prod.fst).mem_iff.2 hm)
    exact (lookup_eq_none_iff.2 hkey).symm
  | some a => exact (lookup_of_mem hu (h.mem_iff.1 (mem_of_lookup hl))).symm

/-- Fields match others that are as many and have a related value under each key. -/
theorem matched_of_lookup {R : α → β → Prop} {fields : List (String × α)}
    {others : List (String × β)} (hu : Unique fields) (hlength : fields.length = others.length)
    (h : ∀ field ∈ fields, ∃ b, others.lookup field.1 = some b ∧ R field.2 b) :
    Matched R fields others := by
  have hmiddle : ∃ middle, Forall₂ R fields middle ∧ middle ⊆ others := by
    clear hu hlength
    induction fields with
    | nil => exact ⟨[], .nil, List.nil_subset _⟩
    | cons field rest ih =>
      obtain ⟨b, hlookup, hb⟩ := h field List.mem_cons_self
      obtain ⟨middle, hrest, hsub⟩ := ih fun other hm => h other (List.mem_cons_of_mem _ hm)
      exact ⟨(field.1, b) :: middle, .cons hb hrest,
        List.cons_subset.2 ⟨mem_of_lookup hlookup, hsub⟩⟩
  obtain ⟨middle, hrelated, hsub⟩ := hmiddle
  refine ⟨middle, hrelated, ?_⟩
  -- Fields with distinct keys are distinct, and there is no room for others besides them.
  have hnodup : middle.Nodup := by
    have hkeys : (keys middle).Nodup := hrelated.keys_eq ▸ hu
    exact List.Nodup.of_map Prod.fst hkeys
  have hlengths : others.length ≤ middle.length := by
    have hkeys := congrArg List.length hrelated.keys_eq
    simp only [keys, List.length_map] at hkeys
    omega
  exact (hnodup.subperm hsub).perm_of_length_le hlengths

namespace Matched

/-- Relating every value to itself matches the fields with themselves. -/
theorem refl {R : α → α → Prop} {fields : List (String × α)}
    (h : ∀ field ∈ fields, R field.2 field.2) : Matched R fields fields :=
  ⟨fields, .refl h, .refl _⟩

variable {R S : α → β → Prop} {fields : List (String × α)} {others : List (String × β)}

theorem keys_perm (h : Matched R fields others) : (keys fields).Perm (keys others) := by
  obtain ⟨middle, hrelated, hperm⟩ := h
  rw [hrelated.keys_eq]
  exact hperm.map Prod.fst

theorem imp_of_mem {S : α → β → Prop} (h : Matched R fields others)
    (hi : ∀ field ∈ fields, ∀ other ∈ others, R field.2 other.2 → S field.2 other.2) :
    Matched S fields others := by
  obtain ⟨middle, hrelated, hperm⟩ := h
  refine ⟨middle, ?_, hperm⟩
  replace hi : ∀ field ∈ fields, ∀ other ∈ middle, R field.2 other.2 → S field.2 other.2 :=
    fun field hm other ho => hi field hm other (hperm.mem_iff.1 ho)
  clear hperm
  induction hrelated with
  | nil => exact .nil
  | cons hab _ ih =>
    refine .cons (hi _ List.mem_cons_self _ List.mem_cons_self hab) (ih fun field hm other ho => ?_)
    exact hi field (List.mem_cons_of_mem _ hm) other (List.mem_cons_of_mem _ ho)

theorem length_eq (h : Matched R fields others) : fields.length = others.length := by
  have hlength := h.keys_perm.length_eq
  simpa [keys] using hlength

theorem lookup (h : Matched R fields others) (hu : Unique others) (key : String) :
    Option.Rel R (fields.lookup key) (others.lookup key) := by
  obtain ⟨middle, hrelated, hperm⟩ := h
  rw [← lookup_eq_of_perm hperm hu]
  exact hrelated.lookup key

theorem lookup_of_mem (h : Matched R fields others) (hu : Unique others) {field : String × α}
    (hm : field ∈ fields) : ∃ b, others.lookup field.1 = some b ∧ R field.2 b := by
  have hfields : Unique fields := h.keys_perm.nodup_iff.2 hu
  have hlookup := h.lookup hu field.1
  rw [Fields.lookup_of_mem hfields hm] at hlookup
  generalize others.lookup field.1 = found at hlookup ⊢
  cases hlookup with
  | some hb => exact ⟨_, rfl, hb⟩

/-- Each of the other fields stands under the key of a field that it is related to. -/
theorem exists_mem (h : Matched R fields others) {other : String × β} (hm : other ∈ others) :
    ∃ field ∈ fields, field.1 = other.1 ∧ R field.2 other.2 := by
  obtain ⟨middle, hrelated, hperm⟩ := h
  exact hrelated.exists_mem (hperm.mem_iff.2 hm)

/-- Two maps that one map matches match each other through its values. -/
theorem through {Q : α → γ → Prop} {thirds : List (String × γ)} (hu : Unique fields)
    (h : Matched R fields others) (h' : Matched Q fields thirds) :
    Matched (fun b c => ∃ field ∈ fields, R field.2 b ∧ Q field.2 c) others thirds := by
  have hothers : Unique others := h.keys_perm.nodup_iff.1 hu
  have hthirds : Unique thirds := h'.keys_perm.nodup_iff.1 hu
  refine matched_of_lookup hothers (h.length_eq.symm.trans h'.length_eq) fun other hm => ?_
  obtain ⟨field, hf, hkey, hr⟩ := h.exists_mem hm
  obtain ⟨c, hc, hq⟩ := h'.lookup_of_mem hthirds hf
  exact ⟨c, hkey ▸ hc, field, hf, hr, hq⟩

end Matched

/-- What comparing the values of fields by key comes to: as many fields, and under the key of
each an equal value. -/
theorem matched_iff {eq : α → α → Bool} {fields others : List (String × α)}
    (hu : Unique fields) (hothers : Unique others) :
    (fields.length == others.length &&
        fields.all fun field => (others.lookup field.1).any (eq field.2)) = true ↔
      Matched (fun a b => eq a b = true) fields others := by
  simp only [Bool.and_eq_true, beq_iff_eq, List.all_eq_true, Option.any_eq_true]
  constructor
  · rintro ⟨hlength, hfields⟩
    exact matched_of_lookup hu hlength hfields
  · intro h
    exact ⟨h.length_eq, fun field hm => h.lookup_of_mem hothers hm⟩

end Fields

namespace Json

/-- Equal up to the order of keys. -/
abbrev Equal (a b : Json) : Prop := (a == b) = true

theorem beqItems_eq_isEqv (items others : List Json) :
    beqItems items others = items.isEqv others beq := by
  induction items generalizing others with
  | nil => cases others <;> rfl
  | cons item rest ih => cases others <;> simp [beqItems, List.isEqv, ih]

theorem beqFields_eq_all (fields others : List (String × Json)) :
    beqFields fields others =
      fields.all fun field => (others.lookup field.1).any (beq field.2) := by
  induction fields with
  | nil => rfl
  | cons field rest ih =>
    rw [beqFields, List.all_cons, ih]
    cases others.lookup field.1 <;> rfl

theorem equal_array_iff {items others : List Json} :
    Equal (.array items) (.array others) ↔ List.Forall₂ Equal items others := by
  show beqItems items others = true ↔ _
  rw [beqItems_eq_isEqv]
  exact isEqv_iff_forall₂

/-- Equal objects have the same keys with equal values. -/
theorem equal_object_iff {fields others : List (String × Json)} (hu : Fields.Unique fields)
    (hothers : Fields.Unique others) :
    Equal (.object fields) (.object others) ↔ Fields.Matched Equal fields others := by
  show (fields.length == others.length && beqFields fields others) = true ↔ _
  rw [beqFields_eq_all]
  exact Fields.matched_iff hu hothers

theorem eq_null_iff {a b : Json} (h : Equal a b) : a = .null ↔ b = .null := by
  constructor
  · rintro rfl
    cases b with
    | null => rfl
    | _ => cases h
  · rintro rfl
    cases a with
    | null => rfl
    | _ => cases h

theorem eq_string_iff {a b : Json} {text : String} (h : Equal a b) :
    a = .string text ↔ b = .string text := by
  constructor
  · rintro rfl
    cases b with
    | string other => rw [show text = other from beq_iff_eq.1 h]
    | _ => cases h
  · rintro rfl
    cases a with
    | string other => rw [show other = text from beq_iff_eq.1 h]
    | _ => cases h

end Json

namespace Node

/-- Equal up to the order of keys. -/
abbrev Equal (a b : Node) : Prop := (a == b) = true

theorem beqItems_eq_isEqv (items others : List Node) :
    beqItems items others = items.isEqv others beq := by
  induction items generalizing others with
  | nil => cases others <;> rfl
  | cons item rest ih => cases others <;> simp [beqItems, List.isEqv, ih]

theorem beqFields_eq_all (fields others : List (String × Node)) :
    beqFields fields others =
      fields.all fun field => (others.lookup field.1).any (beq field.2) := by
  induction fields with
  | nil => rfl
  | cons field rest ih =>
    rw [beqFields, List.all_cons, ih]
    cases others.lookup field.1 <;> rfl

theorem equal_sequence_iff {items others : List Node} :
    Equal (.sequence items) (.sequence others) ↔ List.Forall₂ Equal items others := by
  show beqItems items others = true ↔ _
  rw [beqItems_eq_isEqv]
  exact isEqv_iff_forall₂

/-- Equal maps have the same keys with equal nodes. -/
theorem equal_map_iff {fields others : List (String × Node)} (hu : Fields.Unique fields)
    (hothers : Fields.Unique others) :
    Equal (.map fields) (.map others) ↔ Fields.Matched Equal fields others := by
  show (fields.length == others.length && beqFields fields others) = true ↔ _
  rw [beqFields_eq_all]
  exact Fields.matched_iff hu hothers

end Node

end DeclaredUi
