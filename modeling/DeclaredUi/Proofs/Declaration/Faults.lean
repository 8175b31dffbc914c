import DeclaredUi.Proofs.Declaration.Grammar

/-! Where parsing stops. The levels of a declaration are looked at in pre-order, a map
before what is nested in it. A level can be at fault in four ways that are looked for in a
fixed order, and it warns of the keys that it leaves unmatched. Parsing reports the fault of
the first level that has one, with the warnings of the levels up to there. -/

namespace DeclaredUi

namespace Declaration

/-! ## Levels and their faults -/

mutual

/-- The levels of a declaration in the order in which they are looked at. Nothing beside
the path of a bind is looked at, and no value of an explicit name. -/
def levels : Json → List (List (String × Json))
  | .object fields =>
    fields :: if (fields.lookup bindKey).isSome then [] else levelsOfFields fields
  | .array items => levelsOfItems items
  | _ => []

def levelsOfItems : List Json → List (List (String × Json))
  | [] => []
  | item :: rest => levels item ++ levelsOfItems rest

def levelsOfFields : List (String × Json) → List (List (String × Json))
  | [] => []
  | (key, value) :: rest =>
    (if key = componentKey ∨ key = helperKey then [] else levels value) ++ levelsOfFields rest

end

section

variable (registry : Registry) (fields : List (String × Json))

/-- What is wrong with an explicit name: it is no string, it is marked, or nothing is
registered under it. -/
def explicitFault? (key : String) : Option ConfigurationFault :=
  match fields.lookup key with
  | none | some .null => none
  | some (.string name) =>
    if (unmark? name).isSome then some (.markedReference key name)
    else if registry.contains name then none
    else some (.unknownReference key name)
  | some other => some (.referenceNotString key other.kind)

def explicitNames (key : String) : List String :=
  match fields.lookup key with
  | some (.string name) => [name]
  | _ => []

/-- The names of all elements that a level declares: the registered ones of its marked keys
in key order, the explicit component, the explicit helper, a bind. -/
def declaredNames : List String :=
  ((Fields.keys fields).filterMap shorthand?).filter registry.contains ++
    explicitNames fields componentKey ++ explicitNames fields helperKey ++
    if (fields.lookup bindKey).isSome then ["bind"] else []

def ambiguity? : Option ConfigurationFault :=
  if 1 < (declaredNames registry fields).length then
    some (.ambiguous (declaredNames registry fields))
  else none

def pathFault? : Option ConfigurationFault :=
  match fields.lookup bindKey with
  | none | some (.string _) => none
  | some other => some (.bindPathNotString other.kind)

/-- What is wrong with a level by itself, the first of: the explicit component, the explicit
helper, more than one element, the path of the bind. -/
def fault? : Option ConfigurationFault :=
  (explicitFault? registry fields componentKey).or
    ((explicitFault? registry fields helperKey).or
      ((ambiguity? registry fields).or (pathFault? fields)))

/-- A warning for each marked key that is not reserved and names no plug-in, in key order. -/
def unmatched : List Warning :=
  ((Fields.keys fields).filter fun key =>
    key ∉ reservedKeys ∧ (unmark? key).any (fun name => !registry.contains name) = true).map
      Warning.mk

end

variable {registry : Registry} {fields : List (String × Json)}

theorem levelsOfItems_eq_flatMap (items : List Json) :
    levelsOfItems items = items.flatMap levels := by
  induction items with
  | nil => rfl
  | cons item rest ih => rw [levelsOfItems, ih, List.flatMap_cons]

theorem mem_levels_self : fields ∈ levels (.object fields) := by
  rw [levels]
  exact List.mem_cons_self

theorem levels_subset_of_mem {field : String × Json} (hm : field ∈ fields)
    (hk : ¬ (field.1 = componentKey ∨ field.1 = helperKey)) :
    levels field.2 ⊆ levelsOfFields fields := by
  induction fields with
  | nil => cases hm
  | cons first rest ih =>
    rw [levelsOfFields]
    rcases List.mem_cons.1 hm with rfl | hm
    · rw [if_neg hk]
      exact List.subset_append_left _ _
    · exact List.subset_append_of_subset_right _ (ih hm)

theorem levels_object_of_no_bind (h : fields.lookup bindKey = none) :
    levels (.object fields) = fields :: levelsOfFields fields := by
  rw [levels, h]
  rfl

theorem levels_object_of_bind {value : Json} (h : fields.lookup bindKey = some value) :
    levels (.object fields) = [fields] := by
  rw [levels, h]
  rfl

/-! ## What a level reports -/

theorem unmatched_eq_filterMap :
    unmatched registry fields = (Fields.keys fields).filterMap (warning? registry) := by
  unfold unmatched
  generalize Fields.keys fields = keys
  induction keys with
  | nil => rfl
  | cons key rest ih =>
    rw [List.filter_cons, List.filterMap_cons, ← ih]
    by_cases hr : key ∈ reservedKeys
    · simp [warning?, shorthand?, hr]
    · cases hu : unmark? key with
      | none => simp [warning?, shorthand?, hr, hu]
      | some name => cases hn : registry.contains name <;> simp [warning?, shorthand?, hr, hu, hn]

theorem explicitEntry_of_fault {key : String} {fault : ConfigurationFault}
    (h : explicitFault? registry fields key = some fault) :
    explicitEntry registry fields key = .error fault := by
  unfold explicitFault? at h
  unfold explicitEntry
  cases hl : fields.lookup key with
  | none => simp [hl] at h
  | some value =>
    cases value with
    | null => simp [hl] at h
    | string name =>
      cases hu : unmark? name with
      | some rest => simpa [hl, hu] using h
      | none =>
        cases hg : registry.get? name with
        | none => simpa [hl, hu, hg, Registry.contains] using h
        | some entry => simp [hl, hu, hg, Registry.contains] at h
    | _ => simpa [hl] using h

theorem explicitEntry_of_sound {key : String} (h : explicitFault? registry fields key = none) :
    ∃ found, explicitEntry registry fields key = .ok found ∧
      found.toList.map Registry.Entry.name = explicitNames fields key := by
  unfold explicitFault? at h
  unfold explicitEntry explicitNames
  cases hl : fields.lookup key with
  | none => exact ⟨none, rfl, rfl⟩
  | some value =>
    cases value with
    | null => exact ⟨none, rfl, rfl⟩
    | string name =>
      cases hu : unmark? name with
      | some rest => simp [hl, hu] at h
      | none =>
        cases hg : registry.get? name with
        | none => simp [hl, hu, hg, Registry.contains] at h
        | some entry =>
          obtain ⟨-, hname⟩ := Registry.get?_eq_some hg
          exact ⟨some entry, by simp [hu, hg], by simp [hname]⟩
    | _ => simp [hl] at h

theorem names_shorthandEntries (keys : List String) :
    (shorthandEntries registry keys).map Registry.Entry.name =
      (keys.filterMap shorthand?).filter registry.contains := by
  unfold shorthandEntries
  generalize keys.filterMap shorthand? = names
  induction names with
  | nil => rfl
  | cons name rest ih =>
    rw [List.filterMap_cons, List.filter_cons, ← ih]
    cases hg : registry.get? name with
    | none => simp [Registry.contains, hg]
    | some entry =>
      obtain ⟨-, hname⟩ := Registry.get?_eq_some hg
      simp [Registry.contains, hg, hname]

/-- Where the explicit names are in order, the candidates go by the declared names. -/
theorem candidates_of_sound (hc : explicitFault? registry fields componentKey = none)
    (hh : explicitFault? registry fields helperKey = none) :
    ∃ found, candidates registry fields = .ok found ∧
      found.map Candidate.name = declaredNames registry fields := by
  obtain ⟨component, hcomponent, hcname⟩ := explicitEntry_of_sound hc
  obtain ⟨helper, hhelper, hhname⟩ := explicitEntry_of_sound hh
  refine ⟨_, candidates_ok_iff.2 ⟨component, helper, hcomponent, hhelper, rfl⟩, ?_⟩
  have hname : Candidate.name ∘ Candidate.entry = Registry.Entry.name := rfl
  rw [candidateList, declaredNames, List.map_append, List.map_map, hname, List.map_append,
    List.map_append, names_shorthandEntries, hcname, hhname]
  split <;> rfl

theorem candidates_of_explicitFault {fault : ConfigurationFault}
    (h : (explicitFault? registry fields componentKey).or
      (explicitFault? registry fields helperKey) = some fault) :
    candidates registry fields = .error fault := by
  unfold candidates
  cases hc : explicitFault? registry fields componentKey with
  | some first =>
    obtain rfl : first = fault := by simpa [hc] using h
    rw [explicitEntry_of_fault hc]
    rfl
  | none =>
    obtain ⟨component, hcomponent, -⟩ := explicitEntry_of_sound hc
    rw [hcomponent, explicitEntry_of_fault (by simpa [hc] using h)]
    rfl

theorem declaredNames_of_candidates {found : List Candidate}
    (h : candidates registry fields = .ok found) :
    declaredNames registry fields = found.map Candidate.name := by
  cases hexplicit : (explicitFault? registry fields componentKey).or
      (explicitFault? registry fields helperKey) with
  | some fault =>
    rw [candidates_of_explicitFault hexplicit] at h
    cases h
  | none =>
    obtain ⟨hc, hh⟩ := Option.or_eq_none_iff.1 hexplicit
    obtain ⟨others, hothers, hnames⟩ := candidates_of_sound hc hh
    obtain rfl := Except.ok.inj (hothers.symm.trans h)
    exact hnames.symm

/-- How a level comes out: at fault before its path is looked at, or with what it declares. -/
theorem level_cases (registry : Registry) (fields : List (String × Json)) :
    (∃ fault, level registry fields = ⟨unmatched registry fields, .error fault⟩ ∧
      fault? registry fields = some fault) ∨
    ∃ found, level registry fields = ⟨unmatched registry fields, .ok found⟩ ∧
      fault? registry fields = pathFault? fields := by
  unfold level fault?
  rw [← unmatched_eq_filterMap]
  cases hexplicit : (explicitFault? registry fields componentKey).or
      (explicitFault? registry fields helperKey) with
  | some fault =>
    rw [candidates_of_explicitFault hexplicit, ← Option.or_assoc, hexplicit]
    exact .inl ⟨fault, rfl, rfl⟩
  | none =>
    obtain ⟨hc, hh⟩ := Option.or_eq_none_iff.1 hexplicit
    obtain ⟨found, hfound, hnames⟩ := candidates_of_sound hc hh
    rw [hfound, hc, hh, ambiguity?, ← hnames, List.length_map]
    match found with
    | [] => exact .inr ⟨none, rfl, rfl⟩
    | [candidate] => exact .inr ⟨some candidate, rfl, rfl⟩
    | first :: second :: rest => exact .inl ⟨_, rfl, by simp⟩

/-! ## Scanning a declaration -/

/-- Parsing has gone through the levels: past all of them without a fault, or up to the
first that has one. -/
inductive Scanned (registry : Registry) {α : Type} : List (List (String × Json)) → Parsed α → Prop
  | sound {visited : List (List (String × Json))} {a : α} :
      (∀ level ∈ visited, fault? registry level = none) →
      Scanned registry visited ⟨visited.flatMap (unmatched registry), .ok a⟩
  | faulty {before after : List (List (String × Json))} {level : List (String × Json)}
      {fault : ConfigurationFault} : (∀ earlier ∈ before, fault? registry earlier = none) →
      fault? registry level = some fault →
      Scanned registry (before ++ level :: after)
        ⟨(before ++ [level]).flatMap (unmatched registry), .error fault⟩

namespace Scanned

variable {α β : Type} {visited others : List (List (String × Json))} {parsed : Parsed α}

theorem pure (a : α) : Scanned registry [] (Pure.pure a : Parsed α) :=
  .sound (by simp)

/-- What is parsed next goes on with the levels that are left. -/
theorem bind {next : α → Parsed β} (h : Scanned registry visited parsed)
    (hn : ∀ a, parsed.result = .ok a → Scanned registry others (next a)) :
    Scanned registry (visited ++ others) (parsed >>= next) := by
  cases h with
  | @faulty before after level fault hbefore hfault =>
    rw [List.append_assoc, List.cons_append]
    exact .faulty hbefore hfault
  | @sound _ a hsound =>
    have hnext := hn a rfl
    change Scanned registry _
      ⟨visited.flatMap (unmatched registry) ++ (next a).warnings, (next a).result⟩
    generalize next a = rest at hnext
    cases hnext with
    | sound hrest =>
      rw [← List.flatMap_append]
      exact .sound (List.forall_mem_append.2 ⟨hsound, hrest⟩)
    | @faulty before after level fault hbefore hfault =>
      rw [← List.flatMap_append, ← List.append_assoc, ← List.append_assoc]
      exact .faulty (List.forall_mem_append.2 ⟨hsound, hbefore⟩) hfault

end Scanned

theorem parseItems_scanned {items : List Json}
    (h : ∀ item ∈ items, Scanned registry (levels item) (parseNode registry item)) :
    Scanned registry (levelsOfItems items) (parseItems registry items) := by
  induction items with
  | nil => exact .pure []
  | cons item rest ih =>
    have hrest := ih fun other hm => h other (List.mem_cons_of_mem _ hm)
    rw [parseItems, levelsOfItems]
    refine (h item List.mem_cons_self).bind fun node _ => ?_
    simpa using hrest.bind fun nodes _ => .pure (node :: nodes)

theorem parseFields_scanned {fields : List (String × Json)}
    (h : ∀ field ∈ fields, Scanned registry (levels field.2) (parseNode registry field.2)) :
    Scanned registry (levelsOfFields fields) (parseFields registry fields) := by
  induction fields with
  | nil => exact .pure []
  | cons field rest ih =>
    have hrest := ih fun other hm => h other (List.mem_cons_of_mem _ hm)
    have hvalue : Scanned registry
        (if field.1 = componentKey ∨ field.1 = helperKey then [] else levels field.2)
        (if field.1 = componentKey ∨ field.1 = helperKey then pure (.scalar field.2)
          else parseNode registry field.2) := by
      split
      · exact .pure _
      · exact h field List.mem_cons_self
    rw [parseFields_cons, levelsOfFields]
    refine hvalue.bind fun node _ => ?_
    simpa using hrest.bind fun nodes _ => .pure ((field.1, node) :: nodes)

/-- A level declares a bind exactly when it has the key of one. -/
theorem level_bind_iff {found : Option Candidate}
    (h : (level registry fields).result = .ok found) :
    found = some .bind ↔ (fields.lookup bindKey).isSome = true := by
  cases found with
  | none => simpa using (candidates_spec (level_ok_none_iff.1 h)).2.1
  | some candidate =>
    have hspec := (candidates_spec (level_ok_some_iff.1 h)).2.1
    rw [← hspec, List.mem_singleton, Option.some.injEq, eq_comm]

theorem scanned_of_sound {α : Type} (h : fault? registry fields = none) (a : α) :
    Scanned registry [fields] (⟨unmatched registry fields, .ok a⟩ : Parsed α) := by
  have hsound : Scanned registry [fields]
      (⟨[fields].flatMap (unmatched registry), .ok a⟩ : Parsed α) :=
    .sound (List.forall_mem_singleton.2 h)
  rwa [List.flatMap_singleton] at hsound

theorem scanned_of_fault {α : Type} {fault : ConfigurationFault}
    (h : fault? registry fields = some fault) :
    Scanned registry [fields] (⟨unmatched registry fields, .error fault⟩ : Parsed α) := by
  have hfaulty : Scanned registry ([] ++ [fields])
      (⟨([] ++ [fields]).flatMap (unmatched registry), .error fault⟩ : Parsed α) :=
    .faulty (List.forall_mem_nil _) h
  rwa [List.nil_append, List.flatMap_singleton] at hfaulty

theorem level_scanned (h : pathFault? fields = none) :
    Scanned registry [fields] (level registry fields) := by
  rcases level_cases registry fields with ⟨fault, hlevel, hfault⟩ | ⟨found, hlevel, hfault⟩
  · rw [hlevel]
    exact scanned_of_fault hfault
  · rw [hlevel]
    exact scanned_of_sound (hfault.trans h) found

/-- Beside a bind nothing else is looked at, and its own path last. -/
theorem parseNode_bind_scanned {path : Json} (hl : fields.lookup bindKey = some path) :
    Scanned registry [fields] (parseNode registry (.object fields)) := by
  rw [parseNode]
  rcases level_cases registry fields with ⟨fault, hlevel, hfault⟩ | ⟨found, hlevel, hfault⟩
  · rw [hlevel]
    exact scanned_of_fault hfault
  · obtain rfl := (level_bind_iff (congrArg Parsed.result hlevel)).2 (by rw [hl]; rfl)
    rw [hlevel, Parsed.ok_bind, List.append_nil, bindOf, hl, Option.getD_some]
    rw [pathFault?, hl] at hfault
    cases path with
    | string text => exact scanned_of_sound hfault _
    | _ => exact scanned_of_fault hfault

theorem parseNode_object_scanned
    (ih : Scanned registry (levelsOfFields fields) (parseFields registry fields)) :
    Scanned registry (levels (.object fields)) (parseNode registry (.object fields)) := by
  cases hl : fields.lookup bindKey with
  | some path =>
    rw [levels_object_of_bind hl]
    exact parseNode_bind_scanned hl
  | none =>
    have hpath : pathFault? fields = none := by rw [pathFault?, hl]
    rw [levels_object_of_no_bind hl, ← List.singleton_append, parseNode]
    refine (level_scanned hpath).bind fun found hfound => ?_
    have hbind := level_bind_iff hfound
    rcases found with _ | _ | entry
    · simpa using ih.bind fun nodes _ => .pure (Node.map nodes)
    · simpa using ih.bind fun nodes _ =>
        .pure (Node.invocation _ _ _ (.map nodes) (.object fields))
    · simp [hl] at hbind

theorem parseNode_scanned (registry : Registry) (json : Json) :
    Scanned registry (levels json) (parseNode registry json) := by
  induction json using Json.byParts with
  | array items ih =>
    rw [levels, parseNode]
    simpa using (parseItems_scanned ih).bind fun nodes _ => .pure (Node.sequence nodes)
  | object fields ih => exact parseNode_object_scanned (parseFields_scanned ih)
  | _ => exact .pure _

/-! ## The first fault -/

/-- A list has one first place where something is true. -/
theorem first_unique {α : Type} {p : α → Prop} {before before' after after' : List α} {a a' : α}
    (h : before ++ a :: after = before' ++ a' :: after') (hbefore : ∀ b ∈ before, ¬ p b)
    (ha : p a) (hbefore' : ∀ b ∈ before', ¬ p b) (ha' : p a') : before = before' ∧ a = a' := by
  induction before generalizing before' with
  | nil =>
    cases before' with
    | nil => exact ⟨rfl, (List.cons.inj h).1⟩
    | cons b rest =>
      obtain ⟨rfl, -⟩ := List.cons.inj h
      exact absurd ha (hbefore' a List.mem_cons_self)
  | cons b rest ih =>
    cases before' with
    | nil =>
      obtain ⟨rfl, -⟩ := List.cons.inj h
      exact absurd ha' (hbefore b List.mem_cons_self)
    | cons b' rest' =>
      obtain ⟨rfl, hrest⟩ := List.cons.inj h
      obtain ⟨rfl, rfl⟩ := ih hrest (fun c hm => hbefore c (List.mem_cons_of_mem _ hm))
        fun c hm => hbefore' c (List.mem_cons_of_mem _ hm)
      exact ⟨rfl, rfl⟩

namespace Scanned

variable {α : Type} {visited : List (List (String × Json))} {parsed : Parsed α}

theorem eq_of_first (h : Scanned registry visited parsed)
    {before after : List (List (String × Json))} {level : List (String × Json)}
    {fault : ConfigurationFault} (hsplit : visited = before ++ level :: after)
    (hbefore : ∀ earlier ∈ before, fault? registry earlier = none)
    (hfault : fault? registry level = some fault) :
    parsed = ⟨(before ++ [level]).flatMap (unmatched registry), .error fault⟩ := by
  cases h with
  | sound hsound =>
    have hlevel := hsound level (by simp [hsplit])
    rw [hfault] at hlevel
    cases hlevel
  | @faulty before' _ level' fault' hbefore' hfault' =>
    obtain ⟨rfl, rfl⟩ := first_unique (p := fun level => (fault? registry level).isSome) hsplit
      (by simpa using hbefore') (by simp [hfault']) (by simpa using hbefore) (by simp [hfault])
    obtain rfl := Option.some.inj (hfault'.symm.trans hfault)
    rfl

theorem eq_of_sound (h : Scanned registry visited parsed)
    (hsound : ∀ level ∈ visited, fault? registry level = none) :
    ∃ a, parsed = ⟨visited.flatMap (unmatched registry), .ok a⟩ := by
  cases h with
  | @sound _ a _ => exact ⟨a, rfl⟩
  | @faulty _ _ level _ _ hfault =>
    have hlevel := hsound level (by simp)
    rw [hfault] at hlevel
    cases hlevel

end Scanned

theorem parse_of_component {warnings : List Warning} {root : Invocation}
    (h : parseNode registry (.object fields) = ⟨warnings, .ok (root.toNode .component)⟩) :
    parse registry (.object fields) = ⟨warnings, .ok root⟩ := by
  rw [parse, h, Parsed.ok_bind]
  exact congrArg (Parsed.mk · _) (List.append_nil _)

theorem parse_of_other {warnings : List Warning} {node : Node}
    (h : parseNode registry (.object fields) = ⟨warnings, .ok node⟩)
    (hnode : ∀ root : Invocation, node ≠ root.toNode .component) :
    parse registry (.object fields) = ⟨warnings, .error .noRootComponent⟩ := by
  rw [parse, h, Parsed.ok_bind]
  split
  · rename_i name plugin config raw
    exact absurd rfl (hnode ⟨name, plugin, config, raw⟩)
  · exact congrArg (Parsed.mk · _) (List.append_nil _)

theorem explicitFault?_ne_noRootComponent (key : String) :
    explicitFault? registry fields key ≠ some .noRootComponent := by
  intro h
  unfold explicitFault? at h
  split at h
  case h_3 =>
    split at h
    · cases h
    · split at h <;> cases h
  all_goals cases h

/-- That a declaration comes to no component is no fault of a level. -/
theorem fault?_ne_noRootComponent : fault? registry fields ≠ some .noRootComponent := by
  intro h
  simp only [fault?, Option.or_eq_some_iff] at h
  rcases h with h | ⟨-, h | ⟨-, h | ⟨-, h⟩⟩⟩
  · exact explicitFault?_ne_noRootComponent _ h
  · exact explicitFault?_ne_noRootComponent _ h
  · unfold ambiguity? at h
    split at h <;> cases h
  · unfold pathFault? at h
    split at h <;> cases h

/-- A declaration with a fault is rejected for the first one. -/
theorem parse_of_first {before after : List (List (String × Json))}
    {level : List (String × Json)} {fault : ConfigurationFault}
    (hsplit : levels (.object fields) = before ++ level :: after)
    (hbefore : ∀ earlier ∈ before, fault? registry earlier = none)
    (hfault : fault? registry level = some fault) :
    parse registry (.object fields) =
      ⟨(before ++ [level]).flatMap (unmatched registry), .error fault⟩ := by
  rw [parse, (parseNode_scanned registry (.object fields)).eq_of_first hsplit hbefore hfault]
  rfl

/-- A declaration without a fault is a tree, or rejected as none. -/
theorem parse_of_sound
    (hsound : ∀ level ∈ levels (.object fields), fault? registry level = none) :
    (parse registry (.object fields)).warnings =
        (levels (.object fields)).flatMap (unmatched registry) ∧
      (ComesToComponent registry (.object fields) →
        ∃ root, (parse registry (.object fields)).result = .ok root) ∧
      (¬ ComesToComponent registry (.object fields) →
        (parse registry (.object fields)).result = .error .noRootComponent) := by
  obtain ⟨node, hnode⟩ := (parseNode_scanned registry (.object fields)).eq_of_sound hsound
  rw [comesToComponent_iff (congrArg Parsed.result hnode)]
  by_cases hroot : ∃ root : Invocation, node = root.toNode .component
  · obtain ⟨root, rfl⟩ := hroot
    rw [parse_of_component hnode]
    exact ⟨rfl, fun _ => ⟨root, rfl⟩, fun hnone => absurd ⟨root, rfl⟩ hnone⟩
  · rw [parse_of_other hnode fun root he => hroot ⟨root, he⟩]
    exact ⟨rfl, fun h => absurd h hroot, fun _ => rfl⟩

/-- Either all levels are sound or there is a first one at fault. -/
theorem sound_or_first (registry : Registry) (visited : List (List (String × Json))) :
    (∀ level ∈ visited, fault? registry level = none) ∨
      ∃ before level after fault, visited = before ++ level :: after ∧
        (∀ earlier ∈ before, fault? registry earlier = none) ∧
        fault? registry level = some fault := by
  induction visited with
  | nil => exact .inl (List.forall_mem_nil _)
  | cons first rest ih =>
    cases hfirst : fault? registry first with
    | some fault => exact .inr ⟨[], first, rest, fault, rfl, List.forall_mem_nil _, hfirst⟩
    | none =>
      rcases ih with hsound | ⟨before, level, after, fault, rfl, hbefore, hfault⟩
      · exact .inl (List.forall_mem_cons.2 ⟨hfirst, hsound⟩)
      · exact .inr ⟨first :: before, level, after, fault, rfl,
          List.forall_mem_cons.2 ⟨hfirst, hbefore⟩, hfault⟩

/-- No level of a declaration that parses is at fault, and it warns of what its levels do. -/
theorem sound_of_parse {root : Invocation}
    (h : (parse registry (.object fields)).result = .ok root) :
    (∀ level ∈ levels (.object fields), fault? registry level = none) ∧
      (parse registry (.object fields)).warnings =
        (levels (.object fields)).flatMap (unmatched registry) := by
  rcases sound_or_first registry (levels (.object fields)) with
    hsound | ⟨before, level, after, fault, hsplit, hbefore, hfault⟩
  · exact ⟨hsound, (parse_of_sound hsound).1⟩
  · rw [parse_of_first hsplit hbefore hfault] at h
    cases h

/-- Parsing reports the first fault and gives exactly the warnings up to there. If a level is
at fault then the error is that of the first such level in pre-order, and the warnings are
those of the levels up to and including it. Else all levels have warned, and the declaration
parses unless it does not come to a component, which is no fault of a level. -/
theorem parse_reports_first_fault (registry : Registry) (fields : List (String × Json)) :
    (∀ before level after fault, levels (.object fields) = before ++ level :: after →
      (∀ earlier ∈ before, fault? registry earlier = none) →
      fault? registry level = some fault →
      (parse registry (.object fields)).result = .error fault ∧
        (parse registry (.object fields)).warnings =
          (before ++ [level]).flatMap (unmatched registry)) ∧
    ((∀ level ∈ levels (.object fields), fault? registry level = none) →
      (parse registry (.object fields)).warnings =
          (levels (.object fields)).flatMap (unmatched registry) ∧
        (ComesToComponent registry (.object fields) →
          ∃ root, (parse registry (.object fields)).result = .ok root) ∧
        (¬ ComesToComponent registry (.object fields) →
          (parse registry (.object fields)).result = .error .noRootComponent)) ∧
    ((parse registry (.object fields)).result = .error .noRootComponent →
      ∀ level ∈ levels (.object fields), fault? registry level = none) := by
  refine ⟨fun before level after fault hsplit hbefore hfault => ?_, parse_of_sound,
    fun hresult => ?_⟩
  · rw [parse_of_first hsplit hbefore hfault]
    exact ⟨rfl, rfl⟩
  · rcases sound_or_first registry (levels (.object fields)) with
      hsound | ⟨before, level, after, fault, hsplit, hbefore, hfault⟩
    · exact hsound
    · rw [parse_of_first hsplit hbefore hfault] at hresult
      obtain rfl : fault = .noRootComponent := Except.error.inj hresult
      exact absurd hfault fault?_ne_noRootComponent

/-- Two levels that warn, one that declares three elements, and a fault after it. -/
def crowded : List (String × Json) :=
  [("$odd", .object [("$bind", .string "x"), ("note", .object [("$component", .bool true)])]),
   ("$component", .string "vbox"),
   ("children", .array
     [.object [("$lost", .null), ("$text", .string "a")],
      .object [("$join", .null), ("$helper", .null), ("$component", .string "image"),
        ("$bind", .bool false), ("$left", .null)],
      .object [("$component", .string "$text"), ("$gone", .null)]])]

/-- The faults beside a bind and after the ambiguous level are not reached. A helper without a
fault is no declaration, and warns all the same. -/
theorem parse_crowded :
    ((parse Reference.registry (.object crowded)).result =
        .error (.ambiguous ["join", "image", "bind"]) ∧
      (parse Reference.registry (.object crowded)).warnings =
        [⟨"$odd"⟩, ⟨"$lost"⟩, ⟨"$left"⟩]) ∧
    (parse Reference.registry (.object [("$join", .object [("$odd", .null)])])).result =
        .error .noRootComponent ∧
      (parse Reference.registry (.object [("$join", .object [("$odd", .null)])])).warnings =
        [⟨"$odd"⟩] := by
  constructor
  · refine (parse_reports_first_fault Reference.registry crowded).1
      [crowded, [("$bind", .string "x"), ("note", .object [("$component", .bool true)])],
        [("$lost", .null), ("$text", .string "a")]] _
      [[("$component", .string "$text"), ("$gone", .null)]] _ rfl ?_ rfl
    simp only [List.forall_mem_cons]
    exact ⟨rfl, rfl, rfl, List.forall_mem_nil _⟩
  · obtain ⟨-, hwarned, hsound⟩ :=
      parse_reports_first_fault Reference.registry [("$join", .object [("$odd", .null)])]
    exact ⟨rfl, (hwarned (hsound rfl)).1⟩

end Declaration

end DeclaredUi
