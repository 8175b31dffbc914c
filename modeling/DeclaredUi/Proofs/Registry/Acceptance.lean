import Mathlib.Data.List.Forall2
import Mathlib.Data.List.Induction
import DeclaredUi.Proofs.Parts
import DeclaredUi.Proofs.Registry
import DeclaredUi.Proofs.Text.ByteOrder

/-! Which lists make a registry, and what stops the others. An entry has to be in order by
itself and under a name that no earlier entry has. Reading a list stops at the first entry
that is not in order, with the first thing that is wrong with it; where nothing is, the
registry holds the list entry by entry, and its order does not matter. -/

namespace DeclaredUi

/-- A plug-in stands for a role if it says so or denies the other one. -/
def Plugin.SpeaksFor (plugin : Plugin) : Role → Prop
  | .component => plugin.isComponent? = some true ∨ plugin.isHelper? = some false
  | .helper => plugin.isHelper? = some true ∨ plugin.isComponent? = some false

/-- It is the one role that the plug-in stands for. -/
def Plugin.HasRole (plugin : Plugin) (role : Role) : Prop :=
  ∀ other, plugin.SpeaksFor other ↔ other = role

theorem Plugin.HasRole.unique {plugin : Plugin} {role other : Role} (h : plugin.HasRole role)
    (h' : plugin.HasRole other) : role = other :=
  (h' role).1 ((h role).2 rfl)

namespace Registry

/-! ## What is wrong with an entry -/

/-- What can be wrong with an entry, in the order in which it is looked for, and whether
it is. -/
def findings (earlier : List String) (name : String) (plugin : Plugin) :
    List (Bool × ConfigurationFault) :=
  [(name = "", .emptyName),
    (name.toList.head? = some marker, .markedName name),
    (name ∈ earlier, .duplicateName name),
    (plugin.signature.positional ≠ 2, .invalidSignature name plugin.signature.text),
    (plugin.isComponent? = none ∧ plugin.isHelper? = none, .missingRole name),
    (plugin.isComponent? ≠ none ∧ plugin.isComponent? = plugin.isHelper?,
      .conflictingRoles name)]

def firstFinding (findings : List (Bool × ConfigurationFault)) : Option ConfigurationFault :=
  (findings.find? Prod.fst).map Prod.snd

/-- The first thing that is wrong with an entry. -/
def fault? (earlier : List String) (name : String) (plugin : Plugin) :
    Option ConfigurationFault :=
  firstFinding (findings earlier name plugin)

/-- The first thing that is wrong with the entry in a place of a list. -/
def faultAt? (plugins : Plugins) (mapping : List (String × PluginId)) (place : Nat) :
    Option ConfigurationFault :=
  mapping[place]?.bind fun entry =>
    fault? ((mapping.take place).map Prod.fst) entry.1 (plugins entry.2)

/-- A name is fit for use, and a plug-in takes a config and an environment and says what it
is without contradicting itself. -/
structure Registrable (name : String) (plugin : Plugin) : Prop where
  named : name ≠ ""
  unmarked : name.toList.head? ≠ some marker
  signature : plugin.signature.positional = 2
  answered : plugin.isComponent? ≠ none ∨ plugin.isHelper? ≠ none
  opposed : ∀ component helper, plugin.isComponent? = some component →
    plugin.isHelper? = some helper → component ≠ helper

/-- The names are distinct, and every entry is in order by itself. -/
structure Acceptable (plugins : Plugins) (mapping : List (String × PluginId)) : Prop where
  distinct : (mapping.map Prod.fst).Nodup
  registrable : ∀ entry ∈ mapping, Registrable entry.1 (plugins entry.2)

theorem firstFinding_cons (found : Prop) [Decidable found] (fault : ConfigurationFault)
    (rest : List (Bool × ConfigurationFault)) :
    firstFinding ((decide found, fault) :: rest) =
      if found then some fault else firstFinding rest := by
  by_cases h : found <;> simp [firstFinding, h]

/-- The findings one after the other. -/
theorem fault?_eq (earlier : List String) (name : String) (plugin : Plugin) :
    fault? earlier name plugin =
      if name = "" then some .emptyName
      else if name.toList.head? = some marker then some (.markedName name)
      else if name ∈ earlier then some (.duplicateName name)
      else if plugin.signature.positional ≠ 2 then
        some (.invalidSignature name plugin.signature.text)
      else if plugin.isComponent? = none ∧ plugin.isHelper? = none then some (.missingRole name)
      else if plugin.isComponent? ≠ none ∧ plugin.isComponent? = plugin.isHelper? then
        some (.conflictingRoles name)
      else none := by
  simp only [fault?, findings, firstFinding_cons]
  rfl

/-- Nothing is found of an entry that is in order and has a name of its own. -/
theorem fault?_eq_none_iff {earlier : List String} {name : String} {plugin : Plugin} :
    fault? earlier name plugin = none ↔ name ∉ earlier ∧ Registrable name plugin := by
  have hopposed : ¬(plugin.isComponent? ≠ none ∧ plugin.isComponent? = plugin.isHelper?) ↔
      ∀ component helper, plugin.isComponent? = some component →
        plugin.isHelper? = some helper → component ≠ helper := by
    cases plugin.isComponent? <;> cases plugin.isHelper? <;> simp
  rw [fault?, firstFinding, Option.map_eq_none_iff, List.find?_eq_none]
  simp only [findings, List.forall_mem_cons, decide_eq_true_eq, hopposed, not_and_or, not_not]
  constructor
  · rintro ⟨hnamed, hunmarked, hfresh, hsignature, hanswered, hopposed, -⟩
    exact ⟨hfresh, hnamed, hunmarked, hsignature, hanswered, hopposed⟩
  · rintro ⟨hfresh, hnamed, hunmarked, hsignature, hanswered, hopposed⟩
    exact ⟨hnamed, hunmarked, hfresh, hsignature, hanswered, hopposed, List.forall_mem_nil _⟩

/-! ## One registration -/

/-- The role that is found is the one that the plug-in stands for. -/
theorem hasRole_of_roleOf {name : String} {plugin : Plugin} {role : Role}
    (h : roleOf name plugin = .ok role) : plugin.HasRole role := by
  unfold roleOf at h
  intro other
  cases hc : plugin.isComponent? with
  | none =>
    cases hh : plugin.isHelper? with
    | none =>
      rw [hc, hh] at h
      cases h
    | some helper =>
      rw [hc, hh] at h
      obtain rfl := Except.ok.inj h
      cases helper <;> cases other <;> simp [Plugin.SpeaksFor, hc, hh]
  | some component =>
    cases hh : plugin.isHelper? with
    | none =>
      rw [hc, hh] at h
      obtain rfl := Except.ok.inj h
      cases component <;> cases other <;> simp [Plugin.SpeaksFor, hc, hh]
    | some helper =>
      simp only [hc, hh] at h
      split at h
      · cases h
      · obtain rfl := Except.ok.inj h
        cases component <;> cases helper <;> cases other <;> simp_all [Plugin.SpeaksFor]

/-- The role is missing, contradicted or found. -/
theorem roleOf_spec (name : String) (plugin : Plugin) :
    ((plugin.isComponent? = none ∧ plugin.isHelper? = none) ∧
      roleOf name plugin = .error (.missingRole name)) ∨
    (¬(plugin.isComponent? = none ∧ plugin.isHelper? = none) ∧
      (plugin.isComponent? ≠ none ∧ plugin.isComponent? = plugin.isHelper?) ∧
      roleOf name plugin = .error (.conflictingRoles name)) ∨
    (¬(plugin.isComponent? = none ∧ plugin.isHelper? = none) ∧
      ¬(plugin.isComponent? ≠ none ∧ plugin.isComponent? = plugin.isHelper?) ∧
      ∃ role, roleOf name plugin = .ok role) := by
  unfold roleOf
  cases plugin.isComponent? with
  | none =>
    cases plugin.isHelper? with
    | none => exact .inl ⟨⟨rfl, rfl⟩, rfl⟩
    | some helper => exact .inr (.inr ⟨by simp, by simp, _, rfl⟩)
  | some component =>
    cases plugin.isHelper? with
    | none => exact .inr (.inr ⟨by simp, by simp, _, rfl⟩)
    | some helper =>
      by_cases heq : component = helper
      · exact .inr (.inl ⟨by simp, by simp [heq], if_pos heq⟩)
      · exact .inr (.inr ⟨by simp, by simpa using heq, _, if_neg heq⟩)

/-- The entry is what registering a name and a plug-in adds. -/
structure Enters (plugins : Plugins) (pair : String × PluginId) (entry : Entry) : Prop where
  name : entry.name = pair.1
  plugin : entry.plugin = pair.2
  role : (plugins pair.2).HasRole entry.role

/-- A registration fails with the first thing that is wrong, or adds the entry. -/
theorem register_spec (plugins : Plugins) (registry : Registry) (name : String)
    (plugin : PluginId) :
    (∃ fault, fault? (registry.entries.map Entry.name) name (plugins plugin) = some fault ∧
      registry.register plugins name plugin = .error fault) ∨
    (fault? (registry.entries.map Entry.name) name (plugins plugin) = none ∧
      ∃ entry, Enters plugins (name, plugin) entry ∧
        registry.register plugins name plugin = .ok ⟨registry.entries ++ [entry]⟩) := by
  -- Both sides check the same things in the same order, so each is settled before the next.
  rw [register_eq, checkName, fault?_eq]
  simp only [isSome_unmark?_iff, contains_iff, Signature.isValid, beq_iff_eq]
  by_cases hempty : name = ""
  · simp only [if_pos hempty]
    exact .inl ⟨_, rfl, rfl⟩
  by_cases hmarked : name.toList.head? = some marker
  · simp only [if_neg hempty, if_pos hmarked]
    exact .inl ⟨_, rfl, rfl⟩
  simp only [if_neg hempty, if_neg hmarked, Except.bind]
  by_cases htaken : name ∈ registry.entries.map Entry.name
  · simp only [if_pos htaken]
    exact .inl ⟨_, rfl, rfl⟩
  simp only [if_neg htaken]
  by_cases hsignature : (plugins plugin).signature.positional ≠ 2
  · rw [if_pos hsignature, if_neg hsignature]
    exact .inl ⟨_, rfl, rfl⟩
  rw [if_neg hsignature, if_pos (not_not.1 hsignature)]
  rcases roleOf_spec name (plugins plugin) with
    ⟨hmissing, hrole⟩ | ⟨hmissing, hopposed, hrole⟩ | ⟨hmissing, hopposed, role, hrole⟩
  · rw [if_pos hmissing, hrole]
    exact .inl ⟨_, rfl, rfl⟩
  · rw [if_neg hmissing, if_pos hopposed, hrole]
    exact .inl ⟨_, rfl, rfl⟩
  · rw [if_neg hmissing, if_neg hopposed, hrole]
    exact .inr ⟨rfl, _, ⟨rfl, rfl, hasRole_of_roleOf hrole⟩, rfl⟩

/-! ## Places of a list -/

section

variable {plugins : Plugins} {before after : List (String × PluginId)}
  {pair : String × PluginId}

theorem faultAt?_append {place : Nat} (h : place < before.length) :
    faultAt? plugins (before ++ after) place = faultAt? plugins before place := by
  rw [faultAt?, faultAt?, List.getElem?_append_left h, List.take_append_of_le_length h.le]

theorem faultAt?_length :
    faultAt? plugins (before ++ [pair]) before.length =
      fault? (before.map Prod.fst) pair.1 (plugins pair.2) := by
  simp [faultAt?]

theorem lt_length_of_faultAt? {place : Nat} {fault : ConfigurationFault}
    (h : faultAt? plugins before place = some fault) : place < before.length := by
  obtain ⟨entry, hentry, -⟩ := Option.bind_eq_some_iff.1 h
  exact (List.getElem?_eq_some_iff.1 hentry).1

theorem faultAt?_concat_eq_none_iff :
    (∀ place, faultAt? plugins (before ++ [pair]) place = none) ↔
      (∀ place, faultAt? plugins before place = none) ∧
        fault? (before.map Prod.fst) pair.1 (plugins pair.2) = none := by
  constructor
  · intro h
    refine ⟨fun place => ?_, faultAt?_length.symm.trans (h before.length)⟩
    by_contra hfault
    obtain ⟨fault, hfault⟩ := Option.ne_none_iff_exists'.1 hfault
    have hplace := h place
    rw [faultAt?_append (lt_length_of_faultAt? hfault), hfault] at hplace
    cases hplace
  · rintro ⟨hbefore, hpair⟩ place
    rcases Nat.lt_trichotomy place before.length with hlt | rfl | hgt
    · rw [faultAt?_append hlt]
      exact hbefore place
    · rw [faultAt?_length]
      exact hpair
    · have hlength : (before ++ [pair]).length ≤ place := by
        rw [List.length_append, List.length_singleton]
        exact hgt
      rw [faultAt?, List.getElem?_eq_none hlength]
      rfl

theorem acceptable_concat_iff :
    Acceptable plugins (before ++ [pair]) ↔
      Acceptable plugins before ∧ fault? (before.map Prod.fst) pair.1 (plugins pair.2) = none := by
  have hdistinct : ((before ++ [pair]).map Prod.fst).Nodup ↔
      (before.map Prod.fst).Nodup ∧ pair.1 ∉ before.map Prod.fst := by
    rw [List.map_append, List.map_singleton, ← List.concat_eq_append, List.nodup_concat, and_comm]
  have hregistrable : (∀ entry ∈ before ++ [pair], Registrable entry.1 (plugins entry.2)) ↔
      (∀ entry ∈ before, Registrable entry.1 (plugins entry.2)) ∧
        Registrable pair.1 (plugins pair.2) := by
    rw [List.forall_mem_append, List.forall_mem_singleton]
  rw [fault?_eq_none_iff]
  constructor
  · intro h
    obtain ⟨hnodup, hfresh⟩ := hdistinct.1 h.distinct
    obtain ⟨hbefore, hpair⟩ := hregistrable.1 h.registrable
    exact ⟨⟨hnodup, hbefore⟩, hfresh, hpair⟩
  · rintro ⟨h, hfresh, hpair⟩
    exact ⟨hdistinct.2 ⟨h.distinct, hfresh⟩, hregistrable.2 ⟨h.registrable, hpair⟩⟩

/-- A list is acceptable if nothing is found in any place. -/
theorem acceptable_iff {mapping : List (String × PluginId)} :
    Acceptable plugins mapping ↔ ∀ place, faultAt? plugins mapping place = none := by
  induction mapping using List.reverseRecOn with
  | nil =>
    constructor
    · exact fun _ _ => rfl
    · exact fun _ => ⟨List.nodup_nil, List.forall_mem_nil _⟩
  | append_singleton before pair ih =>
    rw [acceptable_concat_iff, faultAt?_concat_eq_none_iff, ih]

end

/-! ## The whole list -/

variable {plugins : Plugins} {mapping : List (String × PluginId)} {registry : Registry}

theorem ofList_concat (before : List (String × PluginId)) (pair : String × PluginId) :
    ofList plugins (before ++ [pair]) =
      (ofList plugins before).bind fun registry => registry.register plugins pair.1 pair.2 := by
  rw [ofList, List.foldlM_append, ← ofList]
  simp only [List.foldlM_cons, List.foldlM_nil, bind_pure]
  rfl

theorem names_of_enters {entries : List Entry}
    (h : List.Forall₂ (Enters plugins) mapping entries) :
    entries.map Entry.name = mapping.map Prod.fst := by
  induction h with
  | nil => rfl
  | cons hentry _ ih => rw [List.map_cons, List.map_cons, hentry.name, ih]

/-- Reading a list stops with what is wrong in the first place where something is, or makes a
registry with an entry for each of its own. -/
theorem ofList_spec (plugins : Plugins) (mapping : List (String × PluginId)) :
    (∃ place fault, (∀ earlier < place, faultAt? plugins mapping earlier = none) ∧
      faultAt? plugins mapping place = some fault ∧ ofList plugins mapping = .error fault) ∨
    ((∀ place, faultAt? plugins mapping place = none) ∧
      ∃ registry : Registry, List.Forall₂ (Enters plugins) mapping registry.entries ∧
        ofList plugins mapping = .ok registry) := by
  induction mapping using List.reverseRecOn with
  | nil => exact .inr ⟨fun _ => rfl, .empty, .nil, rfl⟩
  | append_singleton before pair ih =>
    rw [ofList_concat]
    rcases ih with ⟨place, fault, hearlier, hfault, hstop⟩ | ⟨hbefore, registry, henters, hok⟩
    · have hplace := lt_length_of_faultAt? hfault
      refine .inl ⟨place, fault, fun earlier hlt => ?_, ?_, by rw [hstop]; rfl⟩
      · rw [faultAt?_append (hlt.trans hplace)]
        exact hearlier earlier hlt
      · rw [faultAt?_append hplace]
        exact hfault
    · -- The names registered so far are those read so far, so a registration finds the fault
      -- that the entry has in its place.
      rw [hok, Except.bind]
      have hregister := register_spec plugins registry pair.1 pair.2
      rw [names_of_enters henters, ← faultAt?_length] at hregister
      rcases hregister with ⟨fault, hfault, hstop⟩ | ⟨hnone, entry, hentry, hnext⟩
      · refine .inl ⟨before.length, fault, fun earlier hlt => ?_, hfault, hstop⟩
        rw [faultAt?_append hlt]
        exact hbefore earlier
      · rw [faultAt?_length] at hnone
        exact .inr ⟨faultAt?_concat_eq_none_iff.2 ⟨hbefore, hnone⟩, _,
          List.rel_append henters (.cons hentry .nil), hnext⟩

/-- Looking up names in a registry finds the entries of a list and nothing else. -/
structure Holds (plugins : Plugins) (mapping : List (String × PluginId)) (registry : Registry) :
    Prop where
  found : ∀ name plugin, (name, plugin) ∈ mapping →
    ∃ role, registry.get? name = some ⟨name, plugin, role⟩ ∧ (plugins plugin).HasRole role
  missing : ∀ name, name ∉ mapping.map Prod.fst → registry.get? name = none

theorem holds_of_enters (hdistinct : (mapping.map Prod.fst).Nodup)
    (h : List.Forall₂ (Enters plugins) mapping registry.entries) :
    Holds plugins mapping registry where
  found name plugin hm := by
    obtain ⟨⟨name', plugin', role⟩, hentry, hname, hplugin, hrole⟩ :=
      exists_mem_of_forall₂ h.flip hm
    cases hname
    cases hplugin
    exact ⟨role, get?_of_mem ((names_of_enters h).symm ▸ hdistinct) hentry, hrole⟩
  missing name hm := by
    rw [← names_of_enters h, ← contains_iff, contains, Option.isSome_iff_ne_none, not_not] at hm
    exact hm

/-- Registries that hold one list, in one order or another, find the same. -/
theorem Holds.get?_eq {others : List (String × PluginId)} {again : Registry}
    (h : Holds plugins mapping registry) (h' : Holds plugins others again)
    (hperm : others.Perm mapping) (name : String) : again.get? name = registry.get? name := by
  by_cases hm : name ∈ mapping.map Prod.fst
  · obtain ⟨⟨name, plugin⟩, hpair, rfl⟩ := List.mem_map.1 hm
    obtain ⟨role, hfound, hrole⟩ := h.found name plugin hpair
    obtain ⟨role', hfound', hrole'⟩ := h'.found name plugin (hperm.mem_iff.2 hpair)
    rw [hfound, hfound', hrole.unique hrole']
  · have hm' : name ∉ others.map Prod.fst := by
      rwa [(hperm.map Prod.fst).mem_iff]
    rw [h.missing name hm, h'.missing name hm']

theorem Acceptable.perm {others : List (String × PluginId)} (h : Acceptable plugins mapping)
    (hperm : others.Perm mapping) : Acceptable plugins others where
  distinct := (hperm.map Prod.fst).nodup_iff.2 h.distinct
  registrable entry hm := h.registrable entry (hperm.mem_iff.1 hm)

/-! ## Names -/

theorem names_perm (registry : Registry) :
    registry.names.Perm (registry.entries.map Entry.name) :=
  List.mergeSort_perm _ _

/-- Distinct names are listed in ascending order of their bytes. -/
theorem names_ascending (h : (registry.entries.map Entry.name).Nodup) :
    registry.names.Pairwise fun a b => Utf8.bytes a < Utf8.bytes b := by
  have hsorted : registry.names.Pairwise fun a b => decide (a ≤ b) = true := by
    refine List.pairwise_mergeSort (fun a b c hab hbc => ?_) (fun a b => ?_) _
    · rw [decide_eq_true_eq] at hab hbc ⊢
      exact String.le_trans hab hbc
    · rw [Bool.or_eq_true, decide_eq_true_eq, decide_eq_true_eq]
      exact String.le_total a b
  have hnodup : registry.names.Pairwise (· ≠ ·) := (names_perm registry).nodup_iff.2 h
  refine hsorted.imp₂ (fun a b hle hne => Utf8.bytes_lt_of_lt ?_) hnodup
  rw [decide_eq_true_eq] at hle
  exact String.not_le.1 fun hge => hne (String.le_antisymm hle hge)

/-! ## Accepted lists and faults -/

theorem exists_ofList_of_acceptable (h : Acceptable plugins mapping) :
    ∃ registry, ofList plugins mapping = .ok registry := by
  rcases ofList_spec plugins mapping with ⟨place, fault, -, hfault, -⟩ | ⟨-, registry, -, hok⟩
  · rw [acceptable_iff.1 h place] at hfault
    cases hfault
  · exact ⟨registry, hok⟩

theorem of_ofList (h : ofList plugins mapping = .ok registry) :
    Acceptable plugins mapping ∧ List.Forall₂ (Enters plugins) mapping registry.entries := by
  rcases ofList_spec plugins mapping with ⟨_, _, -, -, hstop⟩ | ⟨hnone, found, henters, hok⟩
  · rw [h] at hstop
    cases hstop
  · obtain rfl := Except.ok.inj (h.symm.trans hok)
    exact ⟨acceptable_iff.2 hnone, henters⟩

/-- The error is what is wrong in the first place where something is. -/
theorem ofList_eq_error_iff {fault : ConfigurationFault} :
    ofList plugins mapping = .error fault ↔
      ∃ place, (∀ earlier < place, faultAt? plugins mapping earlier = none) ∧
        faultAt? plugins mapping place = some fault := by
  constructor
  · intro h
    rcases ofList_spec plugins mapping with ⟨place, found, hearlier, hfound, hstop⟩ | ⟨-, _, -, hok⟩
    · obtain rfl := Except.error.inj (h.symm.trans hstop)
      exact ⟨place, hearlier, hfound⟩
    · rw [h] at hok
      cases hok
  · rintro ⟨place, hearlier, hfault⟩
    rcases ofList_spec plugins mapping with ⟨place', found, hearlier', hfound, hstop⟩ | ⟨hnone, -⟩
    · have hplace : place = place' := by
        by_contra hne
        rcases Nat.lt_or_gt_of_ne hne with hlt | hgt
        · rw [hearlier' place hlt] at hfault
          cases hfault
        · rw [hearlier place' hgt] at hfound
          cases hfound
      rw [← hplace, hfault] at hfound
      rw [hstop, Option.some.inj hfound]
    · rw [hnone place] at hfault
      cases hfault

/-- A list makes a registry exactly if its names are fit for use and distinct and its plug-ins
are in order. The registry then holds each entry with the one role that its plug-in stands
for and nothing else, lists the names in ascending order of their bytes, and finds the same
when the list is in another order. Any other list is blamed for the first entry that is not
in order, and this for the first thing that is wrong with it. -/
theorem accepted_or_blamed (plugins : Plugins) (mapping : List (String × PluginId)) :
    ((∃ registry, ofList plugins mapping = .ok registry) ↔ Acceptable plugins mapping) ∧
    (∀ registry, ofList plugins mapping = .ok registry →
      Holds plugins mapping registry ∧
      (registry.names.Pairwise fun a b => Utf8.bytes a < Utf8.bytes b) ∧
      (∀ name, name ∈ registry.names ↔ name ∈ mapping.map Prod.fst) ∧
      ∀ others : List (String × PluginId), others.Perm mapping →
        ∃ again, ofList plugins others = .ok again ∧
          ∀ name, again.get? name = registry.get? name) ∧
    ∀ fault, ofList plugins mapping = .error fault ↔
      ∃ place, (∀ earlier < place, faultAt? plugins mapping earlier = none) ∧
        faultAt? plugins mapping place = some fault := by
  refine ⟨⟨?_, exists_ofList_of_acceptable⟩, fun registry hok => ?_, fun _ => ofList_eq_error_iff⟩
  · rintro ⟨registry, hok⟩
    exact (of_ofList hok).1
  · obtain ⟨haccepted, henters⟩ := of_ofList hok
    have hnames := names_of_enters henters
    have hholds := holds_of_enters haccepted.distinct henters
    refine ⟨hholds, names_ascending (hnames ▸ haccepted.distinct), fun name => ?_,
      fun others hperm => ?_⟩
    · rw [(names_perm registry).mem_iff, hnames]
    · have haccepted' := haccepted.perm hperm
      obtain ⟨again, hagain⟩ := exists_ofList_of_acceptable haccepted'
      have hholds' := holds_of_enters haccepted'.distinct (of_ofList hagain).2
      exact ⟨again, hagain, hholds.get?_eq hholds' hperm⟩

/-- A component, a helper, and a plug-in that claims to be both. -/
def sampled : Plugins :=
  .ofList [{ Plugin.inert with isComponent? := some true },
    { Plugin.inert with isComponent? := some false },
    { Plugin.inert with isComponent? := some true, isHelper? := some true }]

/-- The second entry has a name that is taken, which is noticed before what its plug-in
claims to be, and before the empty name that follows. -/
theorem sampled_accepted_or_blamed :
    (∃ registry again, ofList sampled [("vbox", ⟨0⟩), ("each", ⟨1⟩)] = .ok registry ∧
      ofList sampled [("each", ⟨1⟩), ("vbox", ⟨0⟩)] = .ok again ∧
      registry.get? "each" = some ⟨"each", ⟨1⟩, .helper⟩ ∧
      again.get? "each" = registry.get? "each" ∧ registry.get? "text" = none ∧
      (registry.names.Pairwise fun a b => Utf8.bytes a < Utf8.bytes b) ∧
      "vbox" ∈ registry.names) ∧
    ofList sampled [("vbox", ⟨0⟩), ("vbox", ⟨2⟩), ("", ⟨1⟩)] = .error (.duplicateName "vbox") := by
  obtain ⟨-, hregistry, -⟩ := accepted_or_blamed sampled [("vbox", ⟨0⟩), ("each", ⟨1⟩)]
  obtain ⟨-, -, hblamed⟩ := accepted_or_blamed sampled [("vbox", ⟨0⟩), ("vbox", ⟨2⟩), ("", ⟨1⟩)]
  constructor
  · obtain ⟨hholds, hascending, hnames, hperm⟩ := hregistry _ rfl
    obtain ⟨again, hagain, hsame⟩ := hperm [("each", ⟨1⟩), ("vbox", ⟨0⟩)] (.swap _ _ _)
    exact ⟨_, again, rfl, hagain, rfl, hsame "each", hholds.missing "text" (by decide), hascending,
      (hnames "vbox").2 (by decide)⟩
  · refine (hblamed (.duplicateName "vbox")).2 ⟨1, fun earlier hlt => ?_, rfl⟩
    obtain rfl := Nat.lt_one_iff.1 hlt
    rfl

end Registry

end DeclaredUi
