import DeclaredUi.Proofs.Declaration.Faults

/-! Parsing with more plug-ins. A level that neither is at fault nor warns has used every
marked key, and its explicit names are registered, so that further plug-ins find nothing in
it. A declaration that parses without a warning stays the same tree. -/

namespace DeclaredUi

namespace Declaration

section

variable {small large : Registry} {fields : List (String × Json)}
  (hget : ∀ name entry, small.get? name = some entry → large.get? name = some entry)

include hget

theorem shorthandEntries_of_extends {keys : List String}
    (hw : keys.filterMap (warning? small) = []) :
    shorthandEntries large keys = shorthandEntries small keys := by
  unfold shorthandEntries
  refine List.filterMap_congr fun name hname => ?_
  obtain ⟨key, hm, hkey⟩ := List.mem_filterMap.1 hname
  have hnone := List.filterMap_eq_nil_iff.1 hw key hm
  rw [warning?, hkey, Option.bind_some] at hnone
  cases hg : small.get? name with
  | none => simp [Registry.contains, hg] at hnone
  | some entry => exact hget name entry hg

theorem warnings_of_extends {keys : List String} (hw : keys.filterMap (warning? small) = []) :
    keys.filterMap (warning? large) = [] := by
  refine List.filterMap_eq_nil_iff.2 fun key hm => ?_
  have hnone := List.filterMap_eq_nil_iff.1 hw key hm
  unfold warning? at hnone ⊢
  cases hkey : shorthand? key with
  | none => rfl
  | some name =>
    rw [hkey, Option.bind_some] at hnone
    cases hg : small.get? name with
    | none => simp [Registry.contains, hg] at hnone
    | some entry => simp [Registry.contains, hget name entry hg]

theorem explicitEntry_of_extends {key : String} {found : Option Registry.Entry}
    (h : explicitEntry small fields key = .ok found) :
    explicitEntry large fields key = .ok found := by
  rw [explicitEntry_ok_iff] at h ⊢
  rcases h with h | ⟨name, entry, hl, hu, hg, rfl⟩
  · exact .inl h
  · exact .inr ⟨name, entry, hl, hu, hget name entry hg, rfl⟩

/-- Further plug-ins find nothing in a level that is not at fault and does not warn. -/
theorem level_of_extends (hfault : fault? small fields = none)
    (hw : unmatched small fields = []) : level large fields = level small fields := by
  obtain ⟨hc, hrest⟩ := Option.or_eq_none_iff.1 hfault
  obtain ⟨hh, -⟩ := Option.or_eq_none_iff.1 hrest
  obtain ⟨component, hcomponent, -⟩ := explicitEntry_of_sound hc
  obtain ⟨helper, hhelper, -⟩ := explicitEntry_of_sound hh
  rw [unmatched_eq_filterMap] at hw
  have hcandidates : candidates large fields = candidates small fields := by
    unfold candidates
    rw [hcomponent, hhelper, explicitEntry_of_extends hget hcomponent,
      explicitEntry_of_extends hget hhelper, shorthandEntries_of_extends hget hw]
  rw [level, level, hcandidates, hw, warnings_of_extends hget hw]

end

variable {small large : Registry}

/-- A map is parsed by its level, and by its values if it is no bind. -/
theorem parseNode_object_congr {fields : List (String × Json)}
    (hlevel : level large fields = level small fields)
    (hfields : fields.lookup bindKey = none →
      parseFields large fields = parseFields small fields) :
    parseNode large (.object fields) = parseNode small (.object fields) := by
  rw [parseNode, parseNode, hlevel]
  cases hl : fields.lookup bindKey with
  | none => rw [hfields hl]
  | some path =>
    rcases level_cases small fields with ⟨fault, h, -⟩ | ⟨found, h, -⟩
    · rw [h]
      rfl
    · obtain rfl := (level_bind_iff (congrArg Parsed.result h)).2 (by rw [hl]; rfl)
      rw [h]
      rfl

theorem parseItems_congr {items : List Json}
    (h : ∀ item ∈ items, parseNode large item = parseNode small item) :
    parseItems large items = parseItems small items := by
  induction items with
  | nil => rfl
  | cons item rest ih =>
    rw [parseItems, parseItems, h item List.mem_cons_self,
      ih fun other hm => h other (List.mem_cons_of_mem _ hm)]

theorem parseFields_congr {fields : List (String × Json)}
    (h : ∀ field ∈ fields, ¬ (field.1 = componentKey ∨ field.1 = helperKey) →
      parseNode large field.2 = parseNode small field.2) :
    parseFields large fields = parseFields small fields := by
  induction fields with
  | nil => rfl
  | cons field rest ih =>
    rw [parseFields_cons, parseFields_cons, ih fun other hm => h other (List.mem_cons_of_mem _ hm)]
    split
    · rfl
    · rw [h field List.mem_cons_self ‹_›]

/-- Where every level that is looked at comes out the same, so does the whole. -/
theorem parseNode_congr {json : Json}
    (h : ∀ fields ∈ levels json, level large fields = level small fields) :
    parseNode large json = parseNode small json := by
  induction json using Json.byParts with
  | array items ih =>
    rw [levels, levelsOfItems_eq_flatMap] at h
    have hitems : parseItems large items = parseItems small items :=
      parseItems_congr fun item hm =>
        ih item hm fun fields hf => h fields (List.mem_flatMap_of_mem hm hf)
    rw [parseNode, parseNode, hitems]
  | object fields ih =>
    refine parseNode_object_congr (h fields mem_levels_self) fun hl => ?_
    rw [levels_object_of_no_bind hl] at h
    exact parseFields_congr fun field hm hk => ih field hm fun inner hi =>
      h inner (List.mem_cons_of_mem _ (levels_subset_of_mem hm hk hi))
  | _ => rfl

/-- A declaration that parses without a warning parses to the same tree with any registry
that holds the same plug-ins under the same names and any further ones, without a warning. -/
theorem parse_of_extends {plugins : Plugins} {mapping others : List (String × PluginId)}
    {small large : Registry} (hsmall : Registry.ofList plugins mapping = .ok small)
    (hlarge : Registry.ofList plugins others = .ok large) (hextends : large.Extends small)
    {declaration : Json} {root : Invocation} (h : parse small declaration = ⟨[], .ok root⟩) :
    parse large declaration = ⟨[], .ok root⟩ := by
  cases declaration with
  | object fields =>
    obtain ⟨hsound, hwarned⟩ := sound_of_parse (congrArg Parsed.result h)
    rw [h, eq_comm, List.flatMap_eq_nil_iff] at hwarned
    have hnode := parseNode_congr fun level hm =>
      level_of_extends (fun name entry => Registry.get?_of_extends hsmall hlarge hextends)
        (hsound level hm) (hwarned level hm)
    rw [← h, parse, parse, hnode]
  | _ => cases h

/-- Two of the reference plug-ins. -/
def few : Registry := ⟨[⟨"text", ⟨6⟩, .component⟩, ⟨"vbox", ⟨7⟩, .component⟩]⟩

theorem reference_extends_few : Reference.registry.Extends few := by
  intro name entry hg
  obtain ⟨hm, rfl⟩ := Registry.get?_eq_some hg
  obtain rfl | rfl : entry = ⟨"text", ⟨6⟩, .component⟩ ∨ entry = ⟨"vbox", ⟨7⟩, .component⟩ := by
    simpa [few] using hm
  · exact ⟨_, rfl, rfl⟩
  · exact ⟨_, rfl, rfl⟩

theorem ofList_few :
    Registry.ofList Reference.plugins [("text", ⟨6⟩), ("vbox", ⟨7⟩)] = .ok few := rfl

/-- The names of the other plug-ins as plain keys and texts. -/
def plain : Json :=
  .object [("$component", .string "vbox"), ("$helper", .null),
    ("join", .object [("if", .string "$each")]), ("children", .array
      [.object [("$text", .string "a"), ("$component", .null)],
       .object [("rows", .object [("$bind", .string "rows"), ("image", .null)])]])]

theorem parse_plain_of_extends :
    ∃ root, parse few plain = ⟨[], .ok root⟩ ∧ parse Reference.registry plain = ⟨[], .ok root⟩ :=
  ⟨_, rfl, parse_of_extends ofList_few Reference.ofList_mapping reference_extends_few rfl⟩

end Declaration

end DeclaredUi
