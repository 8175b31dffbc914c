import DeclaredUi.Proofs.Reference.Elements

/-! Shorthand written out. A level that names its element by a marked key can name it
explicitly instead, with the content of the marked key under a key of its own. Written
out at every level, an accepted declaration is accepted again, and its tree is the tree
of the original written out in the same way. -/

namespace DeclaredUi

/-- The key that names an element of the role explicitly. -/
def Role.key : Role → String
  | .component => Declaration.componentKey
  | .helper => Declaration.helperKey

namespace Reference

/-- The fields of an element with its marked name written out: `tag` says the name, and
the content comes under its own key. -/
def restate {α : Type} (entry : Registry.Entry) (tag : α) (fields : List (String × α)) :
    List (String × α) :=
  fields.flatMap fun field =>
    if field.1 = mark entry.name then
      [(entry.role.key, tag), (contentKey entry.name, field.2)]
    else [field]

/-- The entry that a marked key names. -/
def markedEntry? (key : String) : Option Registry.Entry :=
  (Declaration.shorthand? key).bind registry.get?

/-- The fields of a level with every marked name written out. -/
def writeOut (fields : List (String × Json)) : List (String × Json) :=
  fields.flatMap fun field =>
    match markedEntry? field.1 with
    | some entry => [(entry.role.key, .string entry.name), (contentKey entry.name, field.2)]
    | none => [field]

end Reference

open Reference in
mutual

/-- A declaration without shorthand. What a level does not look through, beside a bind
and under an explicit name, stays as it is. -/
def Json.explicit : Json → Json
  | .object fields =>
    if (fields.lookup Declaration.bindKey).isSome then .object fields
    else .object (writeOut (explicitFields fields))
  | .array items => .array (explicitItems items)
  | scalar => scalar

def Json.explicitItems : List Json → List Json
  | [] => []
  | item :: rest => item.explicit :: explicitItems rest

def Json.explicitFields : List (String × Json) → List (String × Json)
  | [] => []
  | (key, value) :: rest =>
    (key, if key = Declaration.componentKey ∨ key = Declaration.helperKey then value
      else value.explicit) :: explicitFields rest

end

@[simp] theorem Json.explicitItems_eq_map (items : List Json) :
    explicitItems items = items.map explicit := by
  induction items with
  | nil => rfl
  | cons item rest ih => simp [explicitItems, ih]

theorem Json.explicitFields_eq_map (fields : List (String × Json)) :
    explicitFields fields = fields.map fun field =>
      (field.1, if field.1 = Declaration.componentKey ∨ field.1 = Declaration.helperKey then field.2
        else field.2.explicit) := by
  induction fields with
  | nil => rfl
  | cons field rest ih => rw [explicitFields, ih, List.map_cons]

namespace Node

/-- The config of an element with its marked name written out. -/
def restate (entry : Registry.Entry) : Node → Node
  | .map fields => .map (Reference.restate entry (.scalar (.string entry.name)) fields)
  | other => other

mutual

/-- The tree of a declaration without shorthand. -/
def explicit : Node → Node
  | .bind reference => .bind reference
  | .invocation role name plugin config declaration =>
    .invocation role name plugin (restate ⟨name, plugin, role⟩ (explicit config))
      declaration.explicit
  | .map fields => .map (explicitFields fields)
  | .sequence items => .sequence (explicitItems items)
  | .scalar value => .scalar value

def explicitItems : List Node → List Node
  | [] => []
  | item :: rest => explicit item :: explicitItems rest

def explicitFields : List (String × Node) → List (String × Node)
  | [] => []
  | (key, node) :: rest => (key, explicit node) :: explicitFields rest

end

@[simp] theorem explicitItems_eq_map (items : List Node) :
    explicitItems items = items.map explicit := by
  induction items with
  | nil => rfl
  | cons item rest ih => simp [explicitItems, ih]

@[simp] theorem explicitFields_eq_mapValues (fields : List (String × Node)) :
    explicitFields fields = Fields.mapValues explicit fields := by
  induction fields with
  | nil => rfl
  | cons pair rest ih => simp [explicitFields, Fields.mapValues, ih]

end Node

/-- A component with its config written out. -/
def Invocation.explicit (role : Role) (used : Invocation) : Invocation :=
  ⟨used.name, used.plugin, used.config.explicit.restate ⟨used.name, used.plugin, role⟩,
    used.declaration.explicit⟩

namespace Reference

variable {α β : Type} {entry : Registry.Entry} {fields : List (String × α)} {tag : α}

/-! ## Restated fields -/

theorem restate_cons (field : String × α) (rest : List (String × α)) :
    restate entry tag (field :: rest) =
      (if field.1 = mark entry.name then
        [(entry.role.key, tag), (contentKey entry.name, field.2)]
      else [field]) ++ restate entry tag rest := rfl

/-- Without the marked name there is nothing to write out. -/
theorem restate_eq_self (h : mark entry.name ∉ Fields.keys fields) :
    restate entry tag fields = fields := by
  induction fields with
  | nil => rfl
  | cons field rest ih =>
    obtain ⟨hfield, hrest⟩ := not_or.1 (fun hm => h (List.mem_cons.2 hm))
    rw [restate_cons, if_neg (Ne.symm hfield), ih hrest]
    rfl

theorem mapValues_restate (f : α → β) :
    Fields.mapValues f (restate entry tag fields) =
      restate entry (f tag) (Fields.mapValues f fields) := by
  induction fields with
  | nil => rfl
  | cons field rest ih =>
    change _ = restate entry (f tag) ((field.1, f field.2) :: Fields.mapValues f rest)
    rw [restate_cons, restate_cons, ← ih]
    split <;> rfl

/-- Other keys are not touched. -/
theorem lookup_restate_of_ne {key : String} (hmark : key ≠ mark entry.name)
    (hrole : key ≠ entry.role.key) (hcontent : key ≠ contentKey entry.name) :
    (restate entry tag fields).lookup key = fields.lookup key := by
  induction fields with
  | nil => rfl
  | cons field rest ih =>
    rw [restate_cons, List.lookup_cons]
    split
    · rename_i hfield
      rw [beq_eq_false_iff_ne.2 (hfield ▸ hmark), List.cons_append, List.cons_append,
        List.nil_append, List.lookup_cons, List.lookup_cons, beq_eq_false_iff_ne.2 hrole,
        beq_eq_false_iff_ne.2 hcontent]
      exact ih
    · rw [List.cons_append, List.nil_append, List.lookup_cons, ih]

/-- The key of the role has the tag, if this key was free. -/
theorem lookup_restate_role (hm : mark entry.name ∈ Fields.keys fields)
    (hfree : entry.role.key ∉ Fields.keys fields) :
    (restate entry tag fields).lookup entry.role.key = some tag := by
  induction fields with
  | nil => cases hm
  | cons field rest ih =>
    rw [restate_cons]
    split
    · rw [List.cons_append, List.lookup_cons, beq_self_eq_true]
    · rename_i hfield
      rcases List.mem_cons.1 hm with hm | hm
      · exact absurd hm.symm hfield
      · obtain ⟨hne, hrest⟩ := not_or.1 fun he => hfree (List.mem_cons.2 he)
        rw [List.cons_append, List.nil_append, List.lookup_cons, beq_eq_false_iff_ne.2 hne]
        exact ih hm hrest

/-- The names of an entry keep apart: the key of its role, its marked name and the key
of its content, which is no marked name. -/
structure Spelling (entry : Registry.Entry) : Prop where
  named : registry.get? entry.name = some entry
  plain : unmark? entry.name = none
  marked : markedEntry? (mark entry.name) = some entry
  role : mark entry.name ≠ entry.role.key
  unmarked : unmark? (contentKey entry.name) = none

theorem spelling_of_mem (h : entry ∈ registry.entries) : Spelling entry := by
  simp only [registry, List.mem_cons, List.not_mem_nil, or_false] at h
  rcases h with rfl | rfl | rfl | rfl | rfl | rfl | rfl | rfl <;>
    exact ⟨by decide, by decide, by decide, by decide, by decide⟩

namespace Spelling

theorem content_ne (h : Spelling entry) (name : String) : contentKey entry.name ≠ mark name := by
  intro he
  have hnone := h.unmarked
  rw [unmark?_eq_some_iff.2 he] at hnone
  cases hnone

theorem content_ne_role (h : Spelling entry) (role : Role) :
    contentKey entry.name ≠ role.key := by
  cases role with
  | component => exact h.content_ne "component"
  | helper => exact h.content_ne "helper"

/-- The marked name is gone. -/
theorem lookup_mark (h : Spelling entry) :
    (restate entry tag fields).lookup (mark entry.name) = none := by
  induction fields with
  | nil => rfl
  | cons field rest ih =>
    rw [restate_cons]
    split
    · rw [List.cons_append, List.cons_append, List.nil_append, List.lookup_cons, List.lookup_cons,
        beq_eq_false_iff_ne.2 h.role, beq_eq_false_iff_ne.2 (h.content_ne _).symm]
      exact ih
    · rename_i hfield
      rw [List.cons_append, List.nil_append, List.lookup_cons,
        beq_eq_false_iff_ne.2 (Ne.symm hfield)]
      exact ih

/-- What was under the marked name is under the key of the content, if this was free. -/
theorem lookup_content (h : Spelling entry) (hfree : fields.lookup (contentKey entry.name) = none) :
    (restate entry tag fields).lookup (contentKey entry.name) =
      fields.lookup (mark entry.name) := by
  induction fields with
  | nil => rfl
  | cons field rest ih =>
    rw [List.lookup_cons] at hfree
    split at hfree
    · cases hfree
    · rename_i hkey
      rw [restate_cons, List.lookup_cons]
      split
      · rename_i hfield
        rw [hfield, beq_self_eq_true, List.cons_append, List.lookup_cons,
          beq_eq_false_iff_ne.2 (h.content_ne_role _), List.cons_append, List.lookup_cons,
          beq_self_eq_true]
      · rename_i hfield
        rw [beq_eq_false_iff_ne.2 (Ne.symm hfield), List.cons_append, List.nil_append,
          List.lookup_cons, hkey]
        exact ih hfree

end Spelling

theorem mem_restate {field : String × α} (h : field ∈ restate entry tag fields) :
    field.1 = entry.role.key ∨ field.1 = contentKey entry.name ∨
      field ∈ fields ∧ field.1 ≠ mark entry.name := by
  obtain ⟨source, hs, hm⟩ := List.mem_flatMap.1 h
  split at hm
  · rcases List.mem_cons.1 hm with rfl | hm
    · exact .inl rfl
    · rw [List.mem_singleton.1 hm]
      exact .inr (.inl rfl)
  · obtain rfl := List.mem_singleton.1 hm
    exact .inr (.inr ⟨hs, ‹_›⟩)

/-! ## Written-out levels -/

theorem markedEntry?_eq_some {key : String} (h : markedEntry? key = some entry) :
    key = mark entry.name ∧ entry ∈ registry.entries := by
  obtain ⟨name, hs, hg⟩ := Option.bind_eq_some_iff.1 h
  obtain ⟨hm, rfl⟩ := Registry.get?_eq_some hg
  unfold Declaration.shorthand? at hs
  split at hs
  · cases hs
  · exact ⟨unmark?_eq_some_iff.1 hs, hm⟩

theorem markedEntry?_of_unmarked {key : String} (h : unmark? key = none) :
    markedEntry? key = none := by
  unfold markedEntry? Declaration.shorthand?
  rw [h]
  split <;> rfl

theorem markedEntry?_role (role : Role) : markedEntry? role.key = none := by
  cases role <;> rfl

end Reference

namespace Declaration

open Reference

variable {entry : Registry.Entry} {fields : List (String × Json)}
  {nodes : List (String × Node)}

theorem shorthandEntries_eq (keys : List String) :
    shorthandEntries registry keys = keys.filterMap markedEntry? := by
  rw [shorthandEntries, List.filterMap_filterMap]
  rfl

theorem writeOut_eq_self (h : shorthandEntries registry (Fields.keys fields) = []) :
    writeOut fields = fields := by
  rw [shorthandEntries_eq, List.filterMap_eq_nil_iff] at h
  have hnone : ∀ field ∈ fields, markedEntry? field.1 = none := fun field hm =>
    h field.1 (List.mem_map_of_mem hm)
  unfold writeOut
  induction fields with
  | nil => rfl
  | cons field rest ih =>
    rw [List.flatMap_cons, hnone field List.mem_cons_self,
      ih (fun key hm => h key (List.mem_cons_of_mem _ hm))
        fun other hm => hnone other (List.mem_cons_of_mem _ hm)]
    rfl

/-- In the level of an element only its own name is written out. -/
theorem writeOut_eq_restate (he : Spelling entry)
    (h : ∀ other ∈ shorthandEntries registry (Fields.keys fields), other = entry) :
    writeOut fields = restate entry (.string entry.name) fields := by
  rw [shorthandEntries_eq] at h
  unfold writeOut restate
  refine List.flatMap_congr fun field hm => ?_
  cases hmarked : markedEntry? field.1 with
  | some other =>
    obtain rfl := h other (List.mem_filterMap.2 ⟨_, List.mem_map_of_mem hm, hmarked⟩)
    rw [if_pos (markedEntry?_eq_some hmarked).1]
  | none =>
    refine (if_neg fun hkey => ?_).symm
    rw [hkey, he.marked] at hmarked
    cases hmarked

theorem shorthandEntries_restate (he : Spelling entry) {tag : Json}
    (h : ∀ other ∈ shorthandEntries registry (Fields.keys fields), other = entry) :
    shorthandEntries registry (Fields.keys (restate entry tag fields)) = [] := by
  rw [shorthandEntries_eq] at h
  rw [shorthandEntries_eq, List.filterMap_eq_nil_iff]
  intro key hm
  obtain ⟨field, hfield, rfl⟩ := List.mem_map.1 hm
  rcases mem_restate hfield with hkey | hkey | ⟨hf, hkey⟩
  · rw [hkey]
    exact markedEntry?_role _
  · rw [hkey]
    exact markedEntry?_of_unmarked he.unmarked
  · cases hmarked : markedEntry? field.1 with
    | none => rfl
    | some other =>
      obtain rfl := h other (List.mem_filterMap.2 ⟨_, List.mem_map_of_mem hf, hmarked⟩)
      exact absurd (markedEntry?_eq_some hmarked).1 hkey

/-- The candidates of a level depend on its keys and its explicit names. -/
theorem candidates_congr {registry : Registry} {others : List (String × Json)}
    (hkeys : Fields.keys others = Fields.keys fields)
    (hc : others.lookup componentKey = fields.lookup componentKey)
    (hh : others.lookup helperKey = fields.lookup helperKey) :
    candidates registry others = candidates registry fields := by
  have hbind : (others.lookup bindKey).isSome = (fields.lookup bindKey).isSome := by
    rw [Bool.eq_iff_iff, ← not_iff_not, Option.not_isSome_iff_eq_none,
      Option.not_isSome_iff_eq_none, Fields.lookup_eq_none_iff, Fields.lookup_eq_none_iff, hkeys]
  unfold candidates explicitEntry
  rw [hkeys, hc, hh, hbind]

/-- The key of its role names the entry, the key of the other role none. -/
theorem explicitEntry_restate (he : Spelling entry) (hmarked : mark entry.name ∈ Fields.keys fields)
    (hfree : ∀ role : Role, role.key ∉ Fields.keys fields) (role : Role) :
    explicitEntry registry (restate entry (.string entry.name) fields) role.key =
      .ok (if role = entry.role then some entry else none) := by
  rw [explicitEntry_ok_iff]
  split
  · rename_i hrole
    rw [hrole, lookup_restate_role hmarked (hfree _)]
    exact .inr ⟨entry.name, entry, rfl, he.plain, he.named, rfl⟩
  · rename_i hrole
    have hne : role.key ≠ entry.role.key := by
      revert hrole
      cases role <;> cases entry.role <;> decide
    have hmark : role.key ≠ mark entry.name := by
      intro hkey
      have hnone := markedEntry?_role role
      rw [hkey, he.marked] at hnone
      cases hnone
    rw [lookup_restate_of_ne hmark hne (he.content_ne_role role).symm,
      Fields.lookup_eq_none_iff.2 (hfree role)]
    exact .inl ⟨.inl rfl, rfl⟩

/-- A level that names its element in shorthand does so explicitly when written out. -/
theorem candidates_restate (he : Spelling entry)
    (hentries : shorthandEntries registry (Fields.keys fields) = [entry])
    (hbind : fields.lookup bindKey = none) (hfree : ∀ role : Role, role.key ∉ Fields.keys fields) :
    candidates registry (restate entry (.string entry.name) fields) = .ok [.entry entry] := by
  have hmarked : mark entry.name ∈ Fields.keys fields := by
    have hm : entry ∈ shorthandEntries registry (Fields.keys fields) := by simp [hentries]
    rw [shorthandEntries_eq] at hm
    obtain ⟨key, hkey, hfound⟩ := List.mem_filterMap.1 hm
    rwa [← (markedEntry?_eq_some hfound).1]
  have hnone : shorthandEntries registry
      (Fields.keys (restate entry (.string entry.name) fields)) = [] :=
    shorthandEntries_restate he fun other hm => by simpa [hentries] using hm
  have hunbound : (restate entry (.string entry.name) fields).lookup bindKey = none := by
    have hcontent : contentKey entry.name ≠ bindKey := he.content_ne "bind"
    rw [lookup_restate_of_ne ?mark ?role hcontent.symm, hbind]
    case mark =>
      intro hkey
      have hnamed := he.marked
      rw [← hkey] at hnamed
      cases hnamed
    case role => cases entry.role <;> decide
  refine candidates_ok_iff.2 ⟨_, _, explicitEntry_restate he hmarked hfree .component,
    explicitEntry_restate he hmarked hfree .helper, ?_⟩
  rw [candidateList, hnone, hunbound]
  cases entry.role <;> rfl

theorem shorthandEntries_of_data (h : candidates registry fields = .ok []) :
    fields.lookup bindKey = none ∧ shorthandEntries registry (Fields.keys fields) = [] := by
  obtain ⟨component, helper, -, -, hlist⟩ := candidates_ok_iff.1 h
  obtain ⟨hentries, hbind⟩ := List.append_eq_nil_iff.1 hlist.symm
  obtain ⟨hfirst, -⟩ := List.append_eq_nil_iff.1 (List.map_eq_nil_iff.1 hentries)
  refine ⟨?_, (List.append_eq_nil_iff.1 hfirst).1⟩
  split at hbind
  · cases hbind
  · exact Option.not_isSome_iff_eq_none.1 ‹_›

/-- How a level that declares one element names it. -/
theorem shorthandEntries_of_candidates (h : candidates registry fields = .ok [.entry entry]) :
    fields.lookup bindKey = none ∧
      (shorthandEntries registry (Fields.keys fields) = [] ∨
        shorthandEntries registry (Fields.keys fields) = [entry]) := by
  obtain ⟨component, helper, -, -, hlist⟩ := candidates_ok_iff.1 h
  unfold candidateList at hlist
  cases hbind : fields.lookup bindKey with
  | some value =>
    rw [hbind, Option.isSome_some, if_pos rfl] at hlist
    have hlast := congrArg List.getLast? hlist
    rw [List.getLast?_concat] at hlast
    cases hlast
  | none =>
    rw [hbind, Option.isSome_none, if_neg Bool.false_ne_true, List.append_nil,
      List.append_assoc, List.map_append] at hlist
    refine ⟨rfl, ?_⟩
    rcases List.singleton_eq_append_iff.1 hlist with ⟨hnil, -⟩ | ⟨hone, -⟩
    · exact .inl (List.map_eq_nil_iff.1 hnil)
    · right
      obtain ⟨other, hother, he⟩ := List.map_eq_singleton_iff.1 hone
      obtain rfl := Candidate.entry.inj he
      exact hother

/-! ## The values of a level -/

theorem keys_explicitFields (fields : List (String × Json)) :
    Fields.keys (Json.explicitFields fields) = Fields.keys fields := by
  rw [Json.explicitFields_eq_map, Fields.keys, List.map_map]
  rfl

theorem lookup_explicitFields {key : String} (h : key = componentKey ∨ key = helperKey)
    (fields : List (String × Json)) :
    (Json.explicitFields fields).lookup key = fields.lookup key := by
  induction fields with
  | nil => rfl
  | cons field rest ih =>
    obtain ⟨other, value⟩ := field
    rw [Json.explicitFields, List.lookup_cons, List.lookup_cons, ih]
    cases hk : key == other with
    | true => rw [if_pos (beq_iff_eq.1 hk ▸ h)]
    | false => rfl

theorem candidates_explicitFields (fields : List (String × Json)) :
    candidates registry (Json.explicitFields fields) = candidates registry fields :=
  candidates_congr (keys_explicitFields fields) (lookup_explicitFields (.inl rfl) fields)
    (lookup_explicitFields (.inr rfl) fields)

theorem kept_explicitFields (h : List.Forall₂ (Kept registry) fields nodes)
    (ih : ∀ field ∈ fields, ∀ kept ∈ nodes, (parseNode registry field.2).result = .ok kept.2 →
      (parseNode registry field.2.explicit).result = .ok kept.2.explicit) :
    List.Forall₂ (Kept registry) (Json.explicitFields fields)
      (Fields.mapValues Node.explicit nodes) := by
  rw [Json.explicitFields_eq_map, Fields.mapValues, List.forall₂_map_left_iff,
    List.forall₂_map_right_iff]
  refine forall₂_imp_of_mem h fun field hm kept hn hk => ?_
  obtain ⟨hkey, hnode⟩ := hk
  refine ⟨hkey, ?_⟩
  dsimp only
  split at hnode
  · rename_i hreserved
    rw [if_pos hreserved, if_pos hreserved, hnode, Node.explicit]
  · rename_i hreserved
    rw [if_neg hreserved, if_neg hreserved]
    exact ih field hm kept hn hnode

/-- Kept fields are kept when they are written out alike. -/
theorem kept_restate (he : Spelling entry) (h : List.Forall₂ (Kept registry) fields nodes) :
    List.Forall₂ (Kept registry) (restate entry (.string entry.name) fields)
      (restate entry (.scalar (.string entry.name)) nodes) := by
  have hrole : entry.role.key = componentKey ∨ entry.role.key = helperKey := by
    cases entry.role <;> simp [Role.key]
  have hcontent : ¬(contentKey entry.name = componentKey ∨ contentKey entry.name = helperKey) :=
    not_or.2 ⟨he.content_ne_role .component, he.content_ne_role .helper⟩
  have hmark : ¬(mark entry.name = componentKey ∨ mark entry.name = helperKey) := by
    intro hkey
    have hnone : markedEntry? (mark entry.name) = none := by
      rcases hkey with hkey | hkey <;> rw [hkey] <;> rfl
    rw [he.marked] at hnone
    cases hnone
  induction h with
  | nil => exact .nil
  | @cons field kept _ _ hk _ ih =>
    obtain ⟨hkey, hnode⟩ := hk
    rw [restate_cons, restate_cons, ← hkey]
    split
    · rename_i hfield
      rw [hfield, if_neg hmark] at hnode
      refine .cons ⟨rfl, ?_⟩ (.cons ⟨rfl, ?_⟩ ih)
      · rw [if_pos hrole]
      · rw [if_neg hcontent]
        exact hnode
    · exact .cons ⟨hkey, hnode⟩ ih

/-! ## Written-out declarations -/

/-- Where an element is declared in shorthand, the keys of the explicit form are free. -/
def KeysFree : Element → Prop
  | .bind _ => True
  | .invocation _ used => (used.declaration.get? (mark used.name)).isSome →
      ∀ key ∈ [contentKey used.name, componentKey, helperKey],
        (used.declaration.get? key).isNone

instance : DecidablePred KeysFree
  | .bind _ => inferInstanceAs (Decidable True)
  | .invocation _ used => inferInstanceAs (Decidable
      ((used.declaration.get? (mark used.name)).isSome →
        ∀ key ∈ [contentKey used.name, componentKey, helperKey],
          (used.declaration.get? key).isNone))

/-- A level that declares one element declares it again when it is written out. -/
theorem candidates_writeOut (hc : candidates registry fields = .ok [.entry entry])
    (he : Spelling entry) (hfree : (fields.lookup (mark entry.name)).isSome →
      ∀ key ∈ [contentKey entry.name, componentKey, helperKey], (fields.lookup key).isNone) :
    fields.lookup bindKey = none ∧
      candidates registry (restate entry (.string entry.name) (Json.explicitFields fields)) =
        .ok [.entry entry] ∧
      writeOut (Json.explicitFields fields) =
        restate entry (.string entry.name) (Json.explicitFields fields) := by
  obtain ⟨hbind, hentries⟩ := shorthandEntries_of_candidates hc
  rw [← keys_explicitFields fields] at hentries
  have hbound : (Json.explicitFields fields).lookup bindKey = none := by
    rw [Fields.lookup_eq_none_iff, keys_explicitFields, ← Fields.lookup_eq_none_iff]
    exact hbind
  have hwritten : writeOut (Json.explicitFields fields) =
      restate entry (.string entry.name) (Json.explicitFields fields) := by
    refine writeOut_eq_restate he fun other hm => ?_
    rcases hentries with hentries | hentries <;> rw [hentries] at hm
    · cases hm
    · exact List.mem_singleton.1 hm
  refine ⟨hbind, ?_, hwritten⟩
  by_cases hmark : mark entry.name ∈ Fields.keys (Json.explicitFields fields)
  · have hone := hentries.resolve_left fun hnil => by
      rw [shorthandEntries_eq, List.filterMap_eq_nil_iff] at hnil
      have hnone := hnil _ hmark
      rw [he.marked] at hnone
      cases hnone
    rw [keys_explicitFields, ← Fields.isSome_lookup_iff] at hmark
    refine candidates_restate he hone hbound fun role => ?_
    have hrole := hfree hmark role.key (by cases role <;> simp [Role.key])
    rw [keys_explicitFields, ← Fields.lookup_eq_none_iff]
    exact Option.isNone_iff_eq_none.1 hrole
  · rw [restate_eq_self hmark, candidates_explicitFields, hc]

/-- A declaration that parses does so written out, to its tree written out. -/
theorem parseNode_explicit {json : Json} {node : Node}
    (h : (parseNode registry json).result = .ok node)
    (hfree : ∀ element ∈ node.preorder, KeysFree element) :
    (parseNode registry json.explicit).result = .ok node.explicit := by
  induction json using Json.byParts generalizing node with
  | array items ih =>
    obtain ⟨nodes, rfl, hnodes⟩ := parseNode_array_ok_iff.1 h
    rw [Json.explicit, Json.explicitItems_eq_map, Node.explicit, Node.explicitItems_eq_map]
    refine parseNode_array_ok_iff.2 ⟨_, rfl, ?_⟩
    rw [List.forall₂_map_left_iff, List.forall₂_map_right_iff]
    refine forall₂_imp_of_mem hnodes fun item hm node hn hnode => ih item hm hnode fun element he =>
      hfree element (Node.preorder_subset_sequence hn he)
  | object fields ih =>
    have hkept : ∀ nodes, List.Forall₂ (Kept registry) fields nodes →
        (∀ element ∈ (Node.map nodes).preorder, KeysFree element) →
        List.Forall₂ (Kept registry) (Json.explicitFields fields)
          (Fields.mapValues Node.explicit nodes) := fun nodes hnodes hbelow =>
      kept_explicitFields hnodes fun field hm kept hk hnode =>
        ih field hm hnode fun element he => hbelow element (Node.preorder_subset_map hk he)
    rcases parseNode_object_ok_iff.1 h with ⟨hc, nodes, hnodes, rfl⟩ | ⟨hc, path, hpath, rfl⟩ |
      ⟨entry, hc, nodes, hnodes, rfl⟩
    · obtain ⟨hbind, hentries⟩ := shorthandEntries_of_data hc
      rw [← keys_explicitFields] at hentries
      rw [Json.explicit, hbind, Option.isSome_none, if_neg Bool.false_ne_true,
        writeOut_eq_self hentries, Node.explicit, Node.explicitFields_eq_mapValues]
      exact parseNode_object_ok_iff.2 (.inl ⟨(candidates_explicitFields fields).trans hc, _,
        hkept nodes hnodes hfree, rfl⟩)
    · -- what stands beside a bind is not parsed and stays as it is
      have hbound : (fields.lookup bindKey).isSome = true :=
        (candidates_spec hc).2.1.1 List.mem_cons_self
      rw [Json.explicit, if_pos hbound]
      exact h
    · have hnames := ((candidates_spec hc).2.2 entry).1 List.mem_cons_self
      have he := spelling_of_mem (mem_entries_of_names hnames)
      obtain ⟨hbind, hwritten, hfields⟩ := candidates_writeOut hc he
        (hfree _ List.mem_cons_self)
      have hvalues := hkept nodes hnodes fun element hm =>
        hfree element (List.mem_cons_of_mem _ hm)
      rw [Json.explicit, hbind, Option.isSome_none, if_neg Bool.false_ne_true, hfields]
      refine parseNode_object_ok_iff.2 (.inr (.inr ⟨entry, hwritten, _, kept_restate he hvalues, ?_⟩))
      rw [Node.explicit, Node.explicit, Node.explicitFields_eq_mapValues, Node.restate,
        Json.explicit, hbind, Option.isSome_none, if_neg Bool.false_ne_true, hfields]
  | _ =>
    obtain rfl := Parsed.pure_ok_iff.1 h
    rfl

/-- A declaration that is accepted is accepted written out, with its tree written out. -/
theorem parse_explicit {declaration : Json} {root : Invocation}
    (h : (parse registry declaration).result = .ok root)
    (hfree : ∀ element ∈ root.elements.toList, KeysFree element) :
    (parse registry declaration.explicit).result = .ok (root.explicit .component) := by
  obtain ⟨fields, rfl, hnode⟩ := parse_ok_iff.1 h
  rw [Invocation.toList_elements] at hfree
  have hobject : ∃ others, (Json.object fields).explicit = .object others := by
    rw [Json.explicit]
    split <;> exact ⟨_, rfl⟩
  obtain ⟨others, hothers⟩ := hobject
  exact parse_ok_iff.2 ⟨others, hothers, parseNode_explicit hnode hfree⟩

end Declaration

end DeclaredUi
