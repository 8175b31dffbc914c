import DeclaredUi.Proofs.Declaration.Faults

/-! The name of an element told from its declaration alone. In a declaration that parses
without a warning the keys of an element leave one name, and reading them without a registry
comes to it, but for an explicit name that is `null`: the parser takes it as left out, and
the name is not looked for any further. -/

namespace DeclaredUi

namespace Declaration

/-- The explicit name that is read first is there and `null`. -/
def NullNamed (fields : List (String × Json)) : Prop :=
  fields.lookup componentKey = some .null ∨
    fields.lookup componentKey = none ∧ fields.lookup helperKey = some .null

variable {registry : Registry} {fields : List (String × Json)} {name : String}

theorem elementName?_of_nullNamed (h : NullNamed fields) :
    elementName? (.object fields) = none := by
  rcases h with h | ⟨hc, hh⟩
  · simp [elementName?, h, Json.string?]
  · simp [elementName?, hc, hh, Json.string?]

/-- An explicit name that is in order and not `null` is the only name. -/
theorem eq_string_of_declaredNames {key : String} (hk : key = componentKey ∨ key = helperKey)
    (hfault : explicitFault? registry fields key = none)
    (hn : declaredNames registry fields = [name]) {value : Json}
    (hl : fields.lookup key = some value) (hnull : value ≠ .null) : value = .string name := by
  cases value with
  | string text =>
    have hm : text ∈ declaredNames registry fields := by
      have he : text ∈ explicitNames fields key := by simp [explicitNames, hl]
      rcases hk with rfl | rfl <;> simp [declaredNames, he]
    rw [hn] at hm
    rw [List.mem_singleton.1 hm]
  | null => exact absurd rfl hnull
  | _ => simp [explicitFault?, hl] at hfault

/-- Without reserved keys every marked key is registered, so the only name is in the first. -/
theorem findSome?_of_declaredNames (hc : fields.lookup componentKey = none)
    (hh : fields.lookup helperKey = none) (hb : fields.lookup bindKey = none)
    (hw : unmatched registry fields = []) (hn : declaredNames registry fields = [name]) :
    (Fields.keys fields).findSome? unmark? = some name := by
  have hreserved : ∀ key ∈ Fields.keys fields, key ∉ reservedKeys := by
    intro key hm hr
    rw [Fields.lookup_eq_none_iff] at hc hh hb
    simp only [reservedKeys, List.mem_cons, List.not_mem_nil, or_false] at hr
    rcases hr with rfl | rfl | rfl <;> contradiction
  have hshorthand : (Fields.keys fields).filterMap shorthand? =
      (Fields.keys fields).filterMap unmark? :=
    List.filterMap_congr fun key hm => if_neg (hreserved key hm)
  have hregistered : ∀ text ∈ (Fields.keys fields).filterMap unmark?,
      registry.contains text = true := by
    intro text hm
    obtain ⟨key, hkey, hu⟩ := List.mem_filterMap.1 hm
    rw [unmatched, List.map_eq_nil_iff, List.filter_eq_nil_iff] at hw
    simpa [hreserved key hkey, hu] using hw key hkey
  rw [declaredNames, hshorthand, List.filter_eq_self.2 hregistered] at hn
  simp only [explicitNames, hc, hh, hb, List.append_nil, Option.isSome_none, Bool.false_eq_true,
    if_false] at hn
  rw [← List.head?_filterMap, hn]
  rfl

/-- In a level that is in order the name that is read is the only one, unless it is kept from
being read by `null`. -/
theorem elementName?_of_declaredNames (hfault : fault? registry fields = none)
    (hw : unmatched registry fields = []) (hn : declaredNames registry fields = [name])
    (hnull : ¬ NullNamed fields) : elementName? (.object fields) = some name := by
  obtain ⟨hcomponent, hrest⟩ := Option.or_eq_none_iff.1 hfault
  obtain ⟨hhelper, -⟩ := Option.or_eq_none_iff.1 hrest
  cases hc : fields.lookup componentKey with
  | some value =>
    have hvalue : value ≠ .null := fun he => hnull (.inl (he ▸ hc))
    obtain rfl := eq_string_of_declaredNames (.inl rfl) hcomponent hn hc hvalue
    simp [elementName?, hc, Json.string?]
  | none =>
    cases hh : fields.lookup helperKey with
    | some value =>
      have hvalue : value ≠ .null := fun he => hnull (.inr ⟨hc, he ▸ hh⟩)
      obtain rfl := eq_string_of_declaredNames (.inr rfl) hhelper hn hh hvalue
      simp [elementName?, hc, hh, Json.string?]
    | none =>
      cases hb : fields.lookup bindKey with
      | some path =>
        have hm : "bind" ∈ declaredNames registry fields := by simp [declaredNames, hb]
        rw [hn, List.mem_singleton] at hm
        simp [elementName?, hc, hh, hb, hm]
      | none =>
        simp only [elementName?, hc, hh, hb, Option.isSome_none, Bool.false_eq_true, if_false]
        exact findSome?_of_declaredNames hc hh hb hw hn

/-! ## The elements of a tree -/

/-- An element is the only one that a level of the declaration declares. -/
def NamedBy (registry : Registry) (visited : List (List (String × Json))) (element : Element) :
    Prop :=
  ∃ fields ∈ visited, element.declaration = .object fields ∧
    declaredNames registry fields = [element.name]

theorem NamedBy.mono {visited others : List (List (String × Json))} {element : Element}
    (h : NamedBy registry visited element) (hs : visited ⊆ others) :
    NamedBy registry others element := by
  obtain ⟨fields, hm, hnamed⟩ := h
  exact ⟨fields, hs hm, hnamed⟩

theorem namedBy_of_mem {json : Json} {node : Node}
    (h : (parseNode registry json).result = .ok node) :
    ∀ element ∈ node.preorder, NamedBy registry (levels json) element := by
  induction json using Json.byParts generalizing node with
  | array items ih =>
    obtain ⟨nodes, rfl, hnodes⟩ := parseNode_array_ok_iff.1 h
    intro element hm
    obtain ⟨node, hn, hm⟩ := Node.mem_preorder_sequence.1 hm
    obtain ⟨item, hi, hnode⟩ := exists_mem_of_forall₂ hnodes hn
    refine (ih item hi hnode element hm).mono ?_
    rw [levels, levelsOfItems_eq_flatMap]
    exact fun fields hf => List.mem_flatMap_of_mem hi hf
  | object fields ih =>
    have hkept : fields.lookup bindKey = none → ∀ nodes,
        List.Forall₂ (Kept registry) fields nodes → ∀ element ∈ (Node.map nodes).preorder,
          NamedBy registry (levels (.object fields)) element := by
      intro hl nodes hnodes
      -- the value of an explicit name is no level, and no element is below it
      refine forall_mem_kept hnodes fun field hm hk node hnode element he => ?_
      refine (ih field hm hnode element he).mono ?_
      rw [levels_object_of_no_bind hl]
      exact List.subset_cons_of_subset _ (levels_subset_of_mem hm hk)
    rcases parseNode_object_ok_iff.1 h with ⟨hc, nodes, hnodes, rfl⟩ | ⟨hc, path, -, rfl⟩ |
      ⟨entry, hc, nodes, hnodes, rfl⟩
    · exact hkept (lookup_bind_of_candidates hc (by simp)) nodes hnodes
    · intro element hm
      obtain rfl := List.mem_singleton.1 hm
      exact ⟨fields, mem_levels_self, rfl, declaredNames_of_candidates hc⟩
    · intro element hm
      rcases List.mem_cons.1 hm with rfl | hm
      · exact ⟨fields, mem_levels_self, rfl, declaredNames_of_candidates hc⟩
      · exact hkept (lookup_bind_of_candidates hc (by simp)) nodes hnodes element hm
  | _ =>
    obtain rfl := Parsed.pure_ok_iff.1 h
    intro element hm
    cases hm

/-- In a declaration that parses without a warning, the name that is read from the
declaration of an element is its own, unless the explicit name that is read first is `null`.
Then none is read. -/
theorem elementName_of_parse {declaration : Json} {root : Invocation}
    (h : parse registry declaration = ⟨[], .ok root⟩) :
    ∀ element ∈ root.elements.toList, ∃ fields, element.declaration = .object fields ∧
      (NullNamed fields → elementName? element.declaration = none) ∧
      (¬ NullNamed fields → elementName? element.declaration = some element.name) := by
  obtain ⟨fields, rfl, hnode⟩ := parse_ok_iff.1 (congrArg Parsed.result h)
  obtain ⟨hsound, hwarned⟩ := sound_of_parse (congrArg Parsed.result h)
  rw [h, eq_comm, List.flatMap_eq_nil_iff] at hwarned
  intro element hm
  rw [Invocation.toList_elements] at hm
  obtain ⟨inner, hinner, hdeclaration, hnames⟩ := namedBy_of_mem hnode element hm
  refine ⟨inner, hdeclaration, fun hnull => ?_, fun hnull => ?_⟩
  · rw [hdeclaration]
    exact elementName?_of_nullNamed hnull
  · rw [hdeclaration]
    exact elementName?_of_declaredNames (hsound inner hinner) (hwarned inner hinner) hnames hnull

/-- A text that is named past a `null`, with a bind in it that a `null` hides. -/
def note : Json :=
  .object [("$helper", .null), ("$component", .string "text"),
    ("content", .object [("$bind", .string "x"), ("$component", .null)])]

theorem elementName_of_note : ∃ root reference,
    parse Reference.registry note = ⟨[], .ok root⟩ ∧
      root.elements.toList = [.invocation .component root, .bind reference] ∧
      elementName? root.declaration = some root.name ∧
      elementName? reference.declaration = none := by
  have hnote : ∃ config, parse Reference.registry note = ⟨[], .ok ⟨"text", ⟨6⟩, config, note⟩⟩ ∧
      config.preorder = [.bind ⟨"x", .object [("$bind", .string "x"), ("$component", .null)]⟩] :=
    ⟨_, rfl, rfl⟩
  obtain ⟨config, hparse, hconfig⟩ := hnote
  have helements := Invocation.toList_elements ⟨"text", ⟨6⟩, config, note⟩
  rw [Invocation.toNode, Node.preorder, hconfig] at helements
  have hnames := elementName_of_parse hparse
  rw [helements] at hnames
  obtain ⟨fields, hfields, -, hroot⟩ := hnames _ List.mem_cons_self
  obtain ⟨inner, hinner, hbind, -⟩ := hnames _ (List.mem_cons_of_mem _ List.mem_cons_self)
  cases hfields
  cases hinner
  refine ⟨_, _, hparse, helements, hroot ?_, hbind (.inl rfl)⟩
  rintro (h | ⟨h, -⟩) <;> cases h

/-- A `null` names nothing to the parser, and hides the name that stands beside it. -/
theorem elementName_hidden_by_null : ∃ root,
    parse Reference.registry (.object [("$component", .null), ("$text", .string "x")]) =
        ⟨[], .ok root⟩ ∧
      ∃ element ∈ root.elements.toList,
        elementName? element.declaration ≠ some element.name := by
  have hparse : ∃ config declaration, parse Reference.registry
      (.object [("$component", .null), ("$text", .string "x")]) =
        ⟨[], .ok ⟨"text", ⟨6⟩, config, declaration⟩⟩ ∧ elementName? declaration = none :=
    ⟨_, _, rfl, rfl⟩
  obtain ⟨config, declaration, hparse, hname⟩ := hparse
  refine ⟨_, hparse, .invocation .component ⟨"text", ⟨6⟩, config, declaration⟩, ?_, ?_⟩
  · rw [Invocation.toList_elements]
    exact List.mem_cons_self
  · rw [Element.declaration, hname]
    exact nofun

end Declaration

end DeclaredUi
