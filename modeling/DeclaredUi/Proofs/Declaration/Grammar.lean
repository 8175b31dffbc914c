import DeclaredUi.Proofs.Declaration.Level
import DeclaredUi.Proofs.KeysUnique
import DeclaredUi.Proofs.Node.Preorder
import DeclaredUi.Proofs.Registry
import DeclaredUi.Reference.Registry

/-! The grammar of declarations. A level is in order when its explicit names are
and it declares at most one element, counted without looking at the order of its
keys; below it the values are in order that the parser has to look at. Parsing
accepts exactly the declarations that are in order and come to a component, and
every invocation in the tree is the entry that its level names. -/

namespace DeclaredUi

namespace Declaration

/-- The entries that a level names. -/
inductive Names (registry : Registry) (fields : List (String × Json)) : Registry.Entry → Prop
  | shorthand {key name : String} {entry : Registry.Entry} : key ∈ Fields.keys fields →
      key ∉ reservedKeys → key = mark name → registry.get? name = some entry →
      Names registry fields entry
  | explicit {key name : String} {entry : Registry.Entry} : key = componentKey ∨ key = helperKey →
      fields.lookup key = some (.string name) → registry.get? name = some entry →
      Names registry fields entry

/-- An explicit name that is left out, `null` or registered. -/
def ExplicitOk (registry : Registry) (fields : List (String × Json)) (key : String) : Prop :=
  fields.lookup key = none ∨ fields.lookup key = some .null ∨
    ∃ name, fields.lookup key = some (.string name) ∧ registry.contains name = true

/-- The elements declared by an explicit name: none if it is left out or `null`. -/
def explicitCount (fields : List (String × Json)) (key : String) : Nat :=
  match fields.lookup key with
  | none | some .null => 0
  | some _ => 1

/-- How many elements a level declares. -/
def elementCount (registry : Registry) (fields : List (String × Json)) : Nat :=
  (Fields.keys fields).countP
      (fun key => key ∉ reservedKeys ∧ (unmark? key).any registry.contains = true) +
    explicitCount fields componentKey + explicitCount fields helperKey +
    if (fields.lookup bindKey).isSome then 1 else 0

/-- Declarations that are in order. -/
inductive WellFormed (registry : Registry) : Json → Prop
  | null : WellFormed registry .null
  | bool (value : Bool) : WellFormed registry (.bool value)
  | number (value : Number) : WellFormed registry (.number value)
  | string (value : String) : WellFormed registry (.string value)
  | array {items : List Json} : (∀ item ∈ items, WellFormed registry item) →
      WellFormed registry (.array items)
  /-- Without an element every value counts. -/
  | data {fields : List (String × Json)} : ExplicitOk registry fields componentKey →
      ExplicitOk registry fields helperKey → elementCount registry fields = 0 →
      (∀ field ∈ fields, WellFormed registry field.2) → WellFormed registry (.object fields)
  /-- Beside a bind no value counts. -/
  | bind {fields : List (String × Json)} {path : String} :
      ExplicitOk registry fields componentKey → ExplicitOk registry fields helperKey →
      elementCount registry fields = 1 → fields.lookup bindKey = some (.string path) →
      WellFormed registry (.object fields)
  /-- In an element every value counts but those of the explicit names. -/
  | element {fields : List (String × Json)} : ExplicitOk registry fields componentKey →
      ExplicitOk registry fields helperKey → elementCount registry fields = 1 →
      fields.lookup bindKey = none →
      (∀ field ∈ fields, field.1 ≠ componentKey → field.1 ≠ helperKey →
        WellFormed registry field.2) →
      WellFormed registry (.object fields)

/-- A map one of whose names is that of a component. -/
def ComesToComponent (registry : Registry) (declaration : Json) : Prop :=
  ∃ fields entry, declaration = .object fields ∧ Names registry fields entry ∧
    entry.role = .component

/-! ## Candidates counted -/

section

variable {registry : Registry} {fields : List (String × Json)}
  {component helper found : Option Registry.Entry}

theorem length_shorthandEntries (keys : List String) :
    (shorthandEntries registry keys).length =
      keys.countP fun key => key ∉ reservedKeys ∧ (unmark? key).any registry.contains = true := by
  induction keys with
  | nil => rfl
  | cons key rest ih =>
    unfold shorthandEntries at ih ⊢
    rw [List.countP_cons, List.filterMap_cons]
    by_cases hr : key ∈ reservedKeys
    · simp [shorthand?, hr, ih]
    · cases hu : unmark? key with
      | none => simp [shorthand?, hr, hu, ih]
      | some name =>
        cases hg : registry.get? name with
        | none => simp [shorthand?, hr, hu, hg, Registry.contains, ih]
        | some entry => simp [shorthand?, hr, hu, hg, Registry.contains, ih]

theorem explicitOk_iff (hr : registry.Unmarked) (key : String) :
    ExplicitOk registry fields key ↔ ∃ found, explicitEntry registry fields key = .ok found := by
  simp only [explicitEntry_ok_iff]
  constructor
  · rintro (h | h | ⟨name, h, hname⟩)
    · exact ⟨none, .inl ⟨.inl h, rfl⟩⟩
    · exact ⟨none, .inl ⟨.inr h, rfl⟩⟩
    · obtain ⟨entry, hg⟩ := Option.isSome_iff_exists.1 hname
      obtain ⟨hm, rfl⟩ := Registry.get?_eq_some hg
      exact ⟨some entry, .inr ⟨entry.name, entry, h, hr entry hm, hg, rfl⟩⟩
  · rintro ⟨found, ⟨h | h, -⟩ | ⟨name, entry, h, -, hg, -⟩⟩
    · exact .inl h
    · exact .inr (.inl h)
    · exact .inr (.inr ⟨name, h, by simp [Registry.contains, hg]⟩)

theorem length_explicitEntry {key : String} (h : explicitEntry registry fields key = .ok found) :
    found.toList.length = explicitCount fields key := by
  unfold explicitCount
  rcases explicitEntry_ok_iff.1 h with ⟨hl | hl, rfl⟩ | ⟨name, entry, hl, -, -, rfl⟩ <;>
    rw [hl] <;> rfl

theorem length_candidateList (hc : explicitEntry registry fields componentKey = .ok component)
    (hh : explicitEntry registry fields helperKey = .ok helper) :
    (candidateList registry fields component helper).length = elementCount registry fields := by
  unfold candidateList elementCount
  rw [List.length_append, List.length_map, List.length_append, List.length_append,
    length_shorthandEntries, length_explicitEntry hc, length_explicitEntry hh]
  split <;> rfl

theorem bind_mem_candidateList :
    Candidate.bind ∈ candidateList registry fields component helper ↔
      (fields.lookup bindKey).isSome = true := by
  unfold candidateList
  split <;> simp [*]

theorem mem_shorthandEntries {keys : List String} {entry : Registry.Entry} :
    entry ∈ shorthandEntries registry keys ↔
      ∃ key ∈ keys, key ∉ reservedKeys ∧ ∃ name, key = mark name ∧
        registry.get? name = some entry := by
  unfold shorthandEntries
  simp only [List.mem_filterMap]
  constructor
  · rintro ⟨name, ⟨key, hm, hkey⟩, hg⟩
    unfold shorthand? at hkey
    split at hkey
    · cases hkey
    · exact ⟨key, hm, ‹_›, name, unmark?_eq_some_iff.1 hkey, hg⟩
  · rintro ⟨key, hm, hr, name, hkey, hg⟩
    refine ⟨name, ⟨key, hm, ?_⟩, hg⟩
    rw [shorthand?, if_neg hr, unmark?_eq_some_iff.2 hkey]

theorem explicitEntry_eq_some {key : String} {entry : Registry.Entry}
    (h : explicitEntry registry fields key = .ok found) :
    entry ∈ found.toList ↔ ∃ name, fields.lookup key = some (.string name) ∧
      registry.get? name = some entry := by
  rcases explicitEntry_ok_iff.1 h with ⟨hl | hl, rfl⟩ | ⟨name, other, hl, -, hg, rfl⟩
  · simp [hl]
  · simp [hl]
  · simp only [Option.mem_toList, Option.some.injEq, hl, Json.string.injEq, exists_eq_left', hg]

/-- The entries among the candidates of a level are those that it names. -/
theorem entry_mem_candidateList {entry : Registry.Entry}
    (hc : explicitEntry registry fields componentKey = .ok component)
    (hh : explicitEntry registry fields helperKey = .ok helper) :
    Candidate.entry entry ∈ candidateList registry fields component helper ↔
      Names registry fields entry := by
  have hlist : Candidate.entry entry ∈ candidateList registry fields component helper ↔
      entry ∈ shorthandEntries registry (Fields.keys fields) ∨ entry ∈ component.toList ∨
        entry ∈ helper.toList := by
    unfold candidateList
    split <;> simp
  rw [hlist, mem_shorthandEntries, explicitEntry_eq_some hc, explicitEntry_eq_some hh]
  constructor
  · rintro (⟨key, hm, hr, name, hkey, hg⟩ | ⟨name, hl, hg⟩ | ⟨name, hl, hg⟩)
    · exact .shorthand hm hr hkey hg
    · exact .explicit (.inl rfl) hl hg
    · exact .explicit (.inr rfl) hl hg
  · rintro (⟨hm, hr, hkey, hg⟩ | ⟨rfl | rfl, hl, hg⟩)
    · exact .inl ⟨_, hm, hr, _, hkey, hg⟩
    · exact .inr (.inl ⟨_, hl, hg⟩)
    · exact .inr (.inr ⟨_, hl, hg⟩)

/-- What the candidates of a level are, told without them. -/
theorem candidates_spec {found : List Candidate} (h : candidates registry fields = .ok found) :
    elementCount registry fields = found.length ∧
      (Candidate.bind ∈ found ↔ (fields.lookup bindKey).isSome = true) ∧
      ∀ entry, Candidate.entry entry ∈ found ↔ Names registry fields entry := by
  obtain ⟨component, helper, hc, hh, rfl⟩ := candidates_ok_iff.1 h
  exact ⟨(length_candidateList hc hh).symm, bind_mem_candidateList,
    fun entry => entry_mem_candidateList hc hh⟩

theorem lookup_bind_of_candidates {found : List Candidate}
    (h : candidates registry fields = .ok found) (hb : Candidate.bind ∉ found) :
    fields.lookup bindKey = none :=
  Option.not_isSome_iff_eq_none.1 fun hs => hb ((candidates_spec h).2.1.2 hs)

theorem explicitOk_iff_candidates (hr : registry.Unmarked) :
    ExplicitOk registry fields componentKey ∧ ExplicitOk registry fields helperKey ↔
      ∃ found, candidates registry fields = .ok found := by
  rw [explicitOk_iff hr, explicitOk_iff hr]
  constructor
  · rintro ⟨⟨component, hc⟩, helper, hh⟩
    exact ⟨_, candidates_ok_iff.2 ⟨component, helper, hc, hh, rfl⟩⟩
  · rintro ⟨found, h⟩
    obtain ⟨component, helper, hc, hh, -⟩ := candidates_ok_iff.1 h
    exact ⟨⟨component, hc⟩, helper, hh⟩

end

/-! ## Acceptance -/

section

variable {registry : Registry}

/-- In data the explicit names are left out or `null`. -/
theorem eq_null_of_count_eq_zero {fields : List (String × Json)} (hu : Fields.Unique fields)
    (hcount : elementCount registry fields = 0) {field : String × Json} (hm : field ∈ fields)
    (hk : field.1 = componentKey ∨ field.1 = helperKey) : field.2 = .null := by
  have hl := Fields.lookup_of_mem hu hm
  have hzero : explicitCount fields field.1 = 0 := by
    unfold elementCount at hcount
    rcases hk with hk | hk <;> rw [hk] <;> omega
  unfold explicitCount at hzero
  rw [hl] at hzero
  cases hv : field.2 <;> rw [hv] at hzero <;> first | rfl | cases hzero

theorem exists_kept_iff {fields : List (String × Json)}
    (ih : ∀ field ∈ fields, (∃ node, (parseNode registry field.2).result = .ok node) ↔
      WellFormed registry field.2) :
    (∃ nodes, List.Forall₂ (Kept registry) fields nodes) ↔
      ∀ field ∈ fields, field.1 ≠ componentKey → field.1 ≠ helperKey →
        WellFormed registry field.2 := by
  rw [exists_forall₂_iff]
  refine forall₂_congr fun field hm => ?_
  rw [← ih field hm]
  unfold Kept
  constructor
  · rintro ⟨⟨key, node⟩, -, h⟩ hc hh
    rw [if_neg (by simp [hc, hh])] at h
    exact ⟨node, h⟩
  · intro h
    by_cases hk : field.1 = componentKey ∨ field.1 = helperKey
    · exact ⟨(field.1, .scalar field.2), rfl, by rw [if_pos hk]⟩
    · obtain ⟨node, hnode⟩ := h (fun he => hk (.inl he)) fun he => hk (.inr he)
      exact ⟨(field.1, node), rfl, by rw [if_neg hk]; exact hnode⟩

/-- A map that parses is in order, if the values that count are. -/
theorem wellFormed_of_parse_object (hr : registry.Unmarked) {fields : List (String × Json)}
    (hu : Fields.Unique fields)
    (ih : ∀ field ∈ fields, (∃ node, (parseNode registry field.2).result = .ok node) ↔
      WellFormed registry field.2) {node : Node}
    (h : (parseNode registry (.object fields)).result = .ok node) :
    WellFormed registry (.object fields) := by
  have hkept := exists_kept_iff ih
  rcases parseNode_object_ok_iff.1 h with ⟨hc, nodes, hnodes, -⟩ | ⟨hc, path, hpath, -⟩ |
    ⟨entry, hc, nodes, hnodes, -⟩
  all_goals
    obtain ⟨hcount, hbind, -⟩ := candidates_spec hc
    obtain ⟨hcomponent, hhelper⟩ := (explicitOk_iff_candidates hr).2 ⟨_, hc⟩
  · refine .data hcomponent hhelper hcount fun field hm => ?_
    by_cases hk : field.1 = componentKey ∨ field.1 = helperKey
    · rw [eq_null_of_count_eq_zero hu hcount hm hk]
      exact .null
    · exact hkept.1 ⟨nodes, hnodes⟩ field hm (fun he => hk (.inl he)) fun he => hk (.inr he)
  · obtain ⟨value, hvalue⟩ := Option.isSome_iff_exists.1 (hbind.1 (by simp))
    rw [hvalue] at hpath
    exact .bind hcomponent hhelper hcount (hvalue.trans (congrArg some hpath))
  · exact .element hcomponent hhelper hcount (lookup_bind_of_candidates hc (by simp))
      (hkept.1 ⟨nodes, hnodes⟩)

/-- A map that is in order parses, if the values that count do. -/
theorem parse_object_of_wellFormed (hr : registry.Unmarked) {fields : List (String × Json)}
    (ih : ∀ field ∈ fields, (∃ node, (parseNode registry field.2).result = .ok node) ↔
      WellFormed registry field.2) (h : WellFormed registry (.object fields)) :
    ∃ node, (parseNode registry (.object fields)).result = .ok node := by
  have hkept := exists_kept_iff ih
  cases h with
  | data hcomponent hhelper hcount hall =>
    obtain ⟨found, hc⟩ := (explicitOk_iff_candidates hr).1 ⟨hcomponent, hhelper⟩
    obtain ⟨hlength, -, -⟩ := candidates_spec hc
    obtain rfl := List.length_eq_zero_iff.1 (hlength.symm.trans hcount)
    obtain ⟨nodes, hnodes⟩ := hkept.2 fun field hm _ _ => hall field hm
    exact ⟨_, parseNode_object_ok_iff.2 (.inl ⟨hc, nodes, hnodes, rfl⟩)⟩
  | @bind _ path hcomponent hhelper hcount hpath =>
    obtain ⟨found, hc⟩ := (explicitOk_iff_candidates hr).1 ⟨hcomponent, hhelper⟩
    obtain ⟨hlength, hbind, -⟩ := candidates_spec hc
    obtain ⟨candidate, rfl⟩ := List.length_eq_one_iff.1 (hlength.symm.trans hcount)
    obtain rfl := List.mem_singleton.1 (hbind.2 (by simp [hpath]))
    exact ⟨_, parseNode_object_ok_iff.2 (.inr (.inl ⟨hc, path, by simp [hpath], rfl⟩))⟩
  | element hcomponent hhelper hcount habsent hall =>
    obtain ⟨found, hc⟩ := (explicitOk_iff_candidates hr).1 ⟨hcomponent, hhelper⟩
    obtain ⟨hlength, hbind, -⟩ := candidates_spec hc
    obtain ⟨candidate, rfl⟩ := List.length_eq_one_iff.1 (hlength.symm.trans hcount)
    obtain ⟨nodes, hnodes⟩ := hkept.2 hall
    cases candidate with
    | bind => simp [habsent] at hbind
    | entry entry =>
      exact ⟨_, parseNode_object_ok_iff.2 (.inr (.inr ⟨entry, hc, nodes, hnodes, rfl⟩))⟩

/-- The parser accepts what is in order, at any depth. -/
theorem parseNode_isOk_iff (hr : registry.Unmarked) {json : Json} (hu : json.KeysUnique) :
    (∃ node, (parseNode registry json).result = .ok node) ↔ WellFormed registry json := by
  -- the hypothesis covers every value of a map, also those that its level passes over
  induction json using Json.byParts with
  | null => exact ⟨fun _ => .null, fun _ => ⟨_, rfl⟩⟩
  | bool value => exact ⟨fun _ => .bool value, fun _ => ⟨_, rfl⟩⟩
  | number value => exact ⟨fun _ => .number value, fun _ => ⟨_, rfl⟩⟩
  | string value => exact ⟨fun _ => .string value, fun _ => ⟨_, rfl⟩⟩
  | array items ih =>
    obtain _ | _ | _ | _ | hitems := hu
    have hparsed : (∃ node, (parseNode registry (.array items)).result = .ok node) ↔
        ∀ item ∈ items, ∃ node, (parseNode registry item).result = .ok node := by
      simp only [parseNode_array_ok_iff]
      rw [← exists_forall₂_iff]
      constructor
      · rintro ⟨-, nodes, -, h⟩
        exact ⟨nodes, h⟩
      · rintro ⟨nodes, h⟩
        exact ⟨_, nodes, rfl, h⟩
    rw [hparsed]
    constructor
    · exact fun h => .array fun item hm => (ih item hm (hitems item hm)).1 (h item hm)
    · rintro (_ | _ | _ | _ | h) item hm
      exact (ih item hm (hitems item hm)).2 (h item hm)
  | object fields ih =>
    obtain _ | _ | _ | _ | _ | ⟨hkeys, hvalues⟩ := hu
    have ihvalues := fun field hm => ih field hm (hvalues field hm)
    constructor
    · rintro ⟨node, h⟩
      exact wellFormed_of_parse_object hr hkeys ihvalues h
    · exact parse_object_of_wellFormed hr ihvalues

/-! ## The invocations of a tree -/

/-- An invocation as the level that it was parsed from names it, with the fields of
that level as its config. -/
def DeclaredBy (registry : Registry) (role : Role) (used : Invocation) : Prop :=
  ∃ fields nodes, used.declaration = .object fields ∧ used.config = .map nodes ∧
    List.Forall₂ (Kept registry) fields nodes ∧
    Names registry fields ⟨used.name, used.plugin, role⟩

/-- Whatever holds below the parsed values holds below the kept fields. -/
theorem forall_mem_kept {p : Element → Prop} {fields : List (String × Json)}
    {nodes : List (String × Node)} (h : List.Forall₂ (Kept registry) fields nodes)
    (ih : ∀ field ∈ fields, ¬ (field.1 = componentKey ∨ field.1 = helperKey) →
      ∀ node, (parseNode registry field.2).result = .ok node → ∀ element ∈ node.preorder,
        p element) :
    ∀ element ∈ (Node.map nodes).preorder, p element := by
  intro element hm
  obtain ⟨kept, hk, hm⟩ := Node.mem_preorder_map.1 hm
  obtain ⟨field, hf, -, hnode⟩ := exists_mem_of_forall₂ h hk
  split at hnode
  · rw [hnode] at hm
    cases hm
  · exact ih field hf ‹_› kept.2 hnode element hm

theorem declaredBy_of_mem {json : Json} {node : Node}
    (h : (parseNode registry json).result = .ok node) :
    ∀ element ∈ node.preorder, ∀ role used, element = .invocation role used →
      DeclaredBy registry role used := by
  induction json using Json.byParts generalizing node with
  | array items ih =>
    obtain ⟨nodes, rfl, hnodes⟩ := parseNode_array_ok_iff.1 h
    intro element hm
    obtain ⟨node, hn, hm⟩ := Node.mem_preorder_sequence.1 hm
    obtain ⟨item, hi, hnode⟩ := exists_mem_of_forall₂ hnodes hn
    exact ih item hi hnode element hm
  | object fields ih =>
    rcases parseNode_object_ok_iff.1 h with ⟨-, nodes, hnodes, rfl⟩ | ⟨-, path, -, rfl⟩ |
      ⟨entry, hc, nodes, hnodes, rfl⟩
    · exact forall_mem_kept hnodes fun field hm _ node => ih field hm
    · intro element hm role used he
      rw [List.mem_singleton.1 hm] at he
      cases he
    · intro element hm
      rcases List.mem_cons.1 hm with rfl | hm
      · rintro role used ⟨⟩
        exact ⟨fields, nodes, rfl, rfl, hnodes, ((candidates_spec hc).2.2 entry).1 (by simp)⟩
      · exact forall_mem_kept hnodes (fun field hf _ node => ih field hf) element hm
  | _ =>
    obtain rfl := Parsed.pure_ok_iff.1 h
    intro element hm
    cases hm

theorem parse_ok_iff {declaration : Json} {root : Invocation} :
    (parse registry declaration).result = .ok root ↔
      ∃ fields, declaration = .object fields ∧
        (parseNode registry declaration).result = .ok (root.toNode .component) := by
  cases declaration with
  | object fields =>
    rw [parse, Parsed.bind_ok_iff]
    constructor
    · rintro ⟨node, hnode, h⟩
      split at h
      · obtain rfl := Parsed.pure_ok_iff.1 h
        exact ⟨fields, rfl, hnode⟩
      · cases h
    · rintro ⟨-, -, h⟩
      exact ⟨_, h, rfl⟩
  | _ =>
    constructor
    · intro h
      cases h
    · rintro ⟨fields, h, -⟩
      cases h

/-- The elements of an accepted declaration are those that its levels name. -/
theorem declaredBy_of_parse {declaration : Json} {root : Invocation}
    (h : (parse registry declaration).result = .ok root) {role : Role} {used : Invocation}
    (hm : .invocation role used ∈ root.elements.toList) : DeclaredBy registry role used := by
  obtain ⟨-, -, hnode⟩ := parse_ok_iff.1 h
  rw [Invocation.toList_elements] at hm
  exact declaredBy_of_mem hnode _ hm role used rfl

/-- A map that parses comes to a component exactly when it names one. -/
theorem comesToComponent_iff {fields : List (String × Json)} {node : Node}
    (h : (parseNode registry (.object fields)).result = .ok node) :
    ComesToComponent registry (.object fields) ↔
      ∃ root : Invocation, node = root.toNode .component := by
  constructor
  · rintro ⟨_, entry, ⟨⟩, hnames, hrole⟩
    rcases parseNode_object_ok_iff.1 h with ⟨hc, _⟩ | ⟨hc, _⟩ | ⟨other, hc, nodes, -, rfl⟩
    · simpa using ((candidates_spec hc).2.2 entry).2 hnames
    · simpa using ((candidates_spec hc).2.2 entry).2 hnames
    · have he : entry = other := by simpa using ((candidates_spec hc).2.2 entry).2 hnames
      rw [← he, hrole]
      exact ⟨⟨entry.name, entry.plugin, .map nodes, .object fields⟩, rfl⟩
  · rintro ⟨root, rfl⟩
    rcases parseNode_object_ok_iff.1 h with ⟨-, _, -, hn⟩ | ⟨-, _, -, hn⟩ | ⟨entry, hc, _, -, hn⟩
    · cases hn
    · cases hn
    · obtain ⟨hrole, -, -, -, -⟩ := Node.invocation.inj hn
      exact ⟨fields, entry, rfl, ((candidates_spec hc).2.2 entry).1 (by simp), hrole.symm⟩

/-- A map that is in order and names a component is one. -/
theorem parse_isOk_iff (hr : registry.Unmarked) {declaration : Json}
    (hu : declaration.KeysUnique) :
    (∃ root, (parse registry declaration).result = .ok root) ↔
      ComesToComponent registry declaration ∧ WellFormed registry declaration := by
  simp only [parse_ok_iff]
  rw [← parseNode_isOk_iff hr hu]
  constructor
  · rintro ⟨root, fields, rfl, h⟩
    exact ⟨(comesToComponent_iff h).2 ⟨root, rfl⟩, _, h⟩
  · rintro ⟨hcomes, node, h⟩
    obtain ⟨fields, -, rfl, -, -⟩ := id hcomes
    obtain ⟨root, rfl⟩ := (comesToComponent_iff h).1 hcomes
    exact ⟨root, fields, rfl, h⟩

/-- Parsing accepts exactly the grammar, and its tree holds what the levels name. -/
theorem parse_accepts_grammar {plugins : Plugins} {mapping : List (String × PluginId)}
    (hr : Registry.ofList plugins mapping = .ok registry) {declaration : Json}
    (hu : declaration.KeysUnique) :
    ((∃ root, (parse registry declaration).result = .ok root) ↔
      ComesToComponent registry declaration ∧ WellFormed registry declaration) ∧
    ∀ root, (parse registry declaration).result = .ok root →
      ∀ role used, .invocation role used ∈ root.elements.toList →
        DeclaredBy registry role used :=
  ⟨parse_isOk_iff (Registry.unmarked_of_ofList hr) hu,
    fun _ h _ _ hm => declaredBy_of_parse h hm⟩

end

/-- Beside a bind even a level with two faults is passed over. -/
theorem grammar_accepts_unscanned :
    WellFormed Reference.registry (.object
      [("$component", .string "vbox"), ("$helper", .null),
       ("children", .array [.object
         [("$bind", .string "rows"), ("note", .object [("$component", .bool true),
           ("$text", .null)])]])]) := by
  refine (((parse_accepts_grammar Reference.ofList_mapping ?unique).1).1 ⟨_, rfl⟩).2
  case unique =>
    have hnote : Json.KeysUnique (.object [("$component", .bool true), ("$text", .null)]) :=
      .object (by simp [Fields.Unique]) (by simp [Json.KeysUnique.bool, Json.KeysUnique.null])
    have hrow : Json.KeysUnique (.object [("$bind", .string "rows"),
        ("note", .object [("$component", .bool true), ("$text", .null)])]) :=
      .object (by simp [Fields.Unique]) (by simp [Json.KeysUnique.string, hnote])
    refine .object (by simp [Fields.Unique]) ?_
    simp [Json.KeysUnique.string, Json.KeysUnique.null, Json.KeysUnique.array, hrow]

end Declaration

end DeclaredUi
