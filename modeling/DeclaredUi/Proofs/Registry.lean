import Mathlib.Data.List.Nodup
import DeclaredUi.Registry

/-! What registering keeps. A registry that was built from a list went through one
registration after the other, so a property of the empty registry that every
registration keeps is a property of it. -/

namespace DeclaredUi

theorem unmark?_eq_some_iff {key name : String} : unmark? key = some name ↔ key = mark name := by
  unfold unmark? mark
  constructor
  · intro h
    split at h
    · rename_i c rest hkey
      split at h
      · rename_i hc
        obtain rfl := Option.some.inj h
        rw [String.toList_ofList, ← hc, ← hkey, String.ofList_toList]
      · cases h
    · cases h
  · rintro rfl
    simp

theorem isSome_unmark?_iff {key : String} :
    (unmark? key).isSome = true ↔ key.toList.head? = some marker := by
  unfold unmark?
  cases key.toList with
  | nil => simp
  | cons c rest =>
    by_cases h : c = marker
    · simp [h]
    · simp [h]

namespace Registry

theorem get?_eq_some {registry : Registry} {name : String} {entry : Entry}
    (h : registry.get? name = some entry) : entry ∈ registry.entries ∧ entry.name = name :=
  ⟨List.mem_of_find?_eq_some h, by simpa using List.find?_some h⟩

/-- Where no name occurs twice, every entry is found under its name. -/
theorem get?_of_mem {registry : Registry} (h : (registry.entries.map Entry.name).Nodup)
    {entry : Entry} (hm : entry ∈ registry.entries) : registry.get? entry.name = some entry := by
  cases hg : registry.get? entry.name with
  | none =>
    have hnone := List.find?_eq_none.1 hg entry hm
    exact absurd (beq_self_eq_true entry.name) hnone
  | some found =>
    obtain ⟨hfound, hname⟩ := get?_eq_some hg
    exact congrArg some (List.inj_on_of_nodup_map h hfound hm hname)

theorem contains_iff {registry : Registry} {name : String} :
    registry.contains name = true ↔ name ∈ registry.entries.map Entry.name := by
  simp [contains, get?, List.find?_isSome]

/-- The checks of a registration, one after the other. -/
theorem register_eq (plugins : Plugins) (registry : Registry) (name : String)
    (plugin : PluginId) :
    registry.register plugins name plugin =
      (checkName name).bind fun _ =>
        if registry.contains name then .error (.duplicateName name)
        else if (plugins plugin).signature.isValid then
          (roleOf name (plugins plugin)).map fun role =>
            ⟨registry.entries ++ [⟨name, plugin, role⟩]⟩
        else .error (.invalidSignature name (plugins plugin).signature.text) := by
  unfold register
  cases checkName name with
  | error fault => rfl
  | ok checked =>
    cases registry.contains name with
    | true => rfl
    | false =>
      dsimp only
      cases (plugins plugin).signature.isValid with
      | false => rfl
      | true => cases roleOf name (plugins plugin) <;> rfl

/-- What a registration that succeeds has found, and what it adds. -/
theorem register_ok {plugins : Plugins} {registry next : Registry} {name : String}
    {plugin : PluginId} (h : registry.register plugins name plugin = .ok next) :
    checkName name = .ok () ∧ registry.contains name = false ∧
      ∃ role, roleOf name (plugins plugin) = .ok role ∧
        next = ⟨registry.entries ++ [⟨name, plugin, role⟩]⟩ := by
  rw [register_eq] at h
  cases hc : checkName name with
  | error fault => rw [hc] at h; cases h
  | ok checked =>
    rw [hc] at h
    simp only [Except.bind] at h
    split at h
    · cases h
    · rename_i hd
      split at h
      · cases hr : roleOf name (plugins plugin) with
        | error fault => rw [hr] at h; cases h
        | ok role =>
          rw [hr] at h
          exact ⟨rfl, by simpa using hd, role, rfl, (Except.ok.inj h).symm⟩
      · cases h

theorem ofList_induction {P : Registry → Prop} {plugins : Plugins}
    {mapping : List (String × PluginId)} {registry : Registry} (empty : P .empty)
    (step : ∀ before name plugin after, before.register plugins name plugin = .ok after →
      P before → P after)
    (h : ofList plugins mapping = .ok registry) : P registry := by
  have from_ : ∀ start : Registry, P start →
      mapping.foldlM (fun registry entry => registry.register plugins entry.1 entry.2) start =
        .ok registry → P registry := by
    clear h
    induction mapping with
    | nil =>
      intro start hs h
      obtain rfl := Except.ok.inj h
      exact hs
    | cons entry rest ih =>
      intro start hs h
      rw [List.foldlM_cons] at h
      cases hr : start.register plugins entry.1 entry.2 with
      | error fault => rw [hr] at h; cases h
      | ok next =>
        rw [hr] at h
        exact ih next (step start entry.1 entry.2 next hr hs) h
  exact from_ .empty empty h

/-- No registered name starts with the marker. -/
def Unmarked (registry : Registry) : Prop := ∀ entry ∈ registry.entries, unmark? entry.name = none

theorem unmarked_of_ofList {plugins : Plugins} {mapping : List (String × PluginId)}
    {registry : Registry} (h : ofList plugins mapping = .ok registry) : registry.Unmarked := by
  refine ofList_induction (fun entry hm => by cases hm) ?_ h
  intro before name plugin after hr hb
  obtain ⟨hname, -, role, -, rfl⟩ := register_ok hr
  have hu : unmark? name = none := by
    unfold checkName at hname
    split at hname
    · cases hname
    · split at hname
      · cases hname
      · simpa using ‹¬(unmark? name).isSome = true›
  intro entry hm
  rcases List.mem_append.1 hm with hm | hm
  · exact hb entry hm
  · rw [List.mem_singleton.1 hm]
    exact hu

/-- The role of every entry is the one that its plug-in answers. -/
def Settled (plugins : Plugins) (registry : Registry) : Prop :=
  ∀ entry ∈ registry.entries, roleOf entry.name (plugins entry.plugin) = .ok entry.role

theorem settled_of_ofList {plugins : Plugins} {mapping : List (String × PluginId)}
    {registry : Registry} (h : ofList plugins mapping = .ok registry) :
    registry.Settled plugins := by
  refine ofList_induction (fun entry hm => by cases hm) ?_ h
  intro before name plugin after hr hb
  obtain ⟨-, -, role, hrole, rfl⟩ := register_ok hr
  intro entry hm
  rcases List.mem_append.1 hm with hm | hm
  · exact hb entry hm
  · rw [List.mem_singleton.1 hm]
    exact hrole

/-- One registry holds all names of another, with the same plug-ins. -/
def Extends (large small : Registry) : Prop :=
  ∀ name entry, small.get? name = some entry →
    ∃ again, large.get? name = some again ∧ again.plugin = entry.plugin

/-- A registry that holds the plug-ins of another holds its entries. -/
theorem get?_of_extends {plugins : Plugins} {mapping others : List (String × PluginId)}
    {small large : Registry} (hsmall : ofList plugins mapping = .ok small)
    (hlarge : ofList plugins others = .ok large) (h : large.Extends small) {name : String}
    {entry : Entry} (hg : small.get? name = some entry) : large.get? name = some entry := by
  obtain ⟨again, hagain, hplugin⟩ := h name entry hg
  obtain ⟨hm, hname⟩ := get?_eq_some hg
  obtain ⟨hm', hname'⟩ := get?_eq_some hagain
  have hrole := settled_of_ofList hsmall entry hm
  have hrole' := settled_of_ofList hlarge again hm'
  rw [hplugin, hname', ← hname] at hrole'
  have heq : again = entry := by
    obtain ⟨_, _, _⟩ := again
    obtain ⟨_, _, _⟩ := entry
    simp_all
  rw [hagain, heq]

end Registry

end DeclaredUi
