import DeclaredUi.Proofs.Reference.Requests
import DeclaredUi.Proofs.Render.Nested
import DeclaredUi.Proofs.Render.Resolve
import DeclaredUi.Proofs.Value.Escape

/-! Names with ranks. A component that was stored in a scope is rendered again wherever
its name is read, and so within its own rendering if it renders its own name. If whatever
is stored under a name renders only what is read from names of lower rank, each component
that is fetched from a scope renders lower names than the one that asks for it, and those
in its own config are nested less deep, so no component is rendered within its own
rendering. -/

namespace DeclaredUi

/-- The path starts at the name. The empty path takes in every name. -/
def Bind.Reads (reference : Bind) (name : String) : Prop :=
  reference.segments = [] ∨ reference.segments.head? = some name

/-- The node under `key`, if this is a map that has the key. -/
def Node.get? (key : String) : Node → Option Node
  | .map fields => fields.lookup key
  | _ => none

namespace Reference

/-! ## What is stored -/

/-- The node is what the element is about, under either of its keys. -/
def Content (used : Invocation) (node : Node) : Prop :=
  ∃ key ∈ [contentKey used.name, mark used.name], used.config.get? key = some node

/-- The names under which `each` may bind its items. A name that is looked up or computed
may be any. -/
def Yields (used : Invocation) (name : String) : Prop :=
  match used.config.get? "yield" with
  | some (.scalar (.string text)) => name = text ∨ name = Html.escape text
  | some (.bind _) | some (.invocation .helper _ _ _ _) => True
  | _ => name = ""

/-- What the node comes to may be stored under the name in a scope that the element
makes. -/
inductive Stores (used : Invocation) : String → Node → Prop
  | item {name : String} {node : Node} : used.name = "each" → Content used node →
      Yields used name → Stores used name node
  | binding {fields : List (String × Node)} {name : String} {node : Node} : used.name = "let" →
      Content used (.map fields) → (name, node) ∈ fields → Stores used name node
  /-- Bindings that are looked up or computed may have any names. -/
  | computed {name : String} {node : Node} : used.name = "let" → Content used node →
      (∀ fields, node ≠ .map fields) → Stores used name node

/-- What the node comes to may hold the children that the element has rendered. -/
inductive Renders (used : Invocation) : Node → Prop
  | content {node : Node} : used.name = "paragraph" ∨ used.name = "vbox" → Content used node →
      Renders used node
  | child {node : Node} : used.name = "each" ∨ used.name = "let" →
      used.config.get? "do" = some node → Renders used node

/-! ## Ranks -/

section

variable (rank : String → Nat)

/-- What the component has rendered, itself or through the components that it has
rendered, is read from names below the level. -/
inductive RendersBelow (level : Nat) : Invocation → Prop
  | intro {used : Invocation} :
      (∀ node, Renders used node → ∀ reference, .bind reference ∈ node.surface →
        ∀ name, reference.Reads name → rank name < level) →
      (∀ node, Renders used node → ∀ next, .invocation .component next ∈ node.surface →
        RendersBelow level next) → RendersBelow level used

/-- What a node comes to can be stored at a level: its own components render what is
below the level, and what it hands on was not stored above it. -/
structure Storable (level : Nat) (node : Node) : Prop where
  component : ∀ used, .invocation .component used ∈ node.surface → RendersBelow rank level used
  handed : ∀ reference, .bind reference ∈ node.surface →
    ∀ name, reference.Reads name → rank name ≤ level

/-- Whatever the components of a tree store under a name can be stored at its rank. -/
structure Ranked (bound : Nat) (root : Invocation) : Prop where
  bounded : ∀ name, rank name < bound
  stored : ∀ used, .invocation .component used ∈ root.elements.toList →
    ∀ name node, Stores used name node → Storable rank (rank name) node

/-- A component of the tree that renders what is below the level. -/
def At (tree : Node) (level : Nat) (used : Invocation) : Prop :=
  .invocation .component used ∈ tree.preorder ∧ RendersBelow rank level used

/-- Fields in which everything is stored at the rank of its name. -/
def InRank (tree : Node) (fields : List (String × Value)) : Prop :=
  ∀ field ∈ fields, field.2.EveryElement (At rank tree (rank field.1))

/-- Environments in which everything is stored at the rank of its name. -/
inductive Scoped (tree : Node) : Value → Prop
  | object {fields : List (String × Value)} : InRank rank tree fields →
      Scoped tree (.object fields)
  | data {env : Value} : env.EveryElement (fun _ => False) → Scoped tree env

end

variable {rank : String → Nat} {tree node : Node} {level : Nat} {env value : Value}
  {used : Invocation}

theorem RendersBelow.mono (h : RendersBelow rank level used) {higher : Nat}
    (hle : level ≤ higher) : RendersBelow rank higher used := by
  induction h with
  | intro hreads _ ih =>
    refine .intro (fun node hr reference hm name hn => ?_) ih
    exact Nat.lt_of_lt_of_le (hreads node hr reference hm name hn) hle

theorem Scoped.fieldsOrEmpty (h : Scoped rank tree env) : InRank rank tree env.fieldsOrEmpty := by
  cases h with
  | object hfields => exact hfields
  | data hdata => exact fun field hm => (hdata.fieldsOrEmpty hm).imp fun _ h => h.elim

/-- A path leads to what was stored under a name that it reads. -/
theorem Scoped.evaluate (h : Scoped rank tree env) (reference : Bind) :
    (reference.evaluate env).EveryElement fun used =>
      ∃ name, reference.Reads name ∧ At rank tree (rank name) used := by
  unfold Bind.evaluate
  cases hf : env.follow? reference.segments with
  | none => exact .null
  | some found =>
    cases h with
    | data hdata => exact (hdata.follow? hf).imp fun _ h => h.elim
    | @object fields hfields =>
      cases hs : reference.segments with
      | nil =>
        rw [hs] at hf
        obtain rfl := Option.some.inj hf
        exact .object fun field hm =>
          (hfields field hm).imp fun _ hat => ⟨field.1, .inl hs, hat⟩
      | cons segment rest =>
        rw [hs, Value.follow?_cons] at hf
        obtain ⟨stored, hl, hrest⟩ := Option.bind_eq_some_iff.1 hf
        have hstored := hfields _ (Fields.mem_of_lookup hl)
        exact (hstored.follow? hrest).imp fun _ hat => ⟨segment, .inr (by rw [hs]; rfl), hat⟩

theorem preorder_subset_of_get? {key : String} (h : used.config.get? key = some node) :
    node.preorder ⊆ used.config.preorder := by
  unfold Node.get? at h
  split at h
  · rename_i fields hconfig
    rw [hconfig]
    exact Node.preorder_subset_map (Fields.mem_of_lookup h)
  · cases h

theorem preorder_subset_of_content (h : Content used node) :
    node.preorder ⊆ used.config.preorder := by
  obtain ⟨key, -, hget⟩ := h
  exact preorder_subset_of_get? hget

theorem preorder_subset_of_renders (h : Renders used node) :
    node.preorder ⊆ used.config.preorder := by
  cases h with
  | content _ hcontent => exact preorder_subset_of_content hcontent
  | child _ hget => exact preorder_subset_of_get? hget

/-- What an element is about, if its config has only its mark. -/
theorem eq_of_content (key : String) {found : Node}
    (hfree : used.config.get? (contentKey used.name) = none) (hkey : mark used.name = key)
    (hmark : used.config.get? key = some found) (h : Content used node) : node = found := by
  obtain ⟨other, hother, hget⟩ := h
  rcases List.mem_cons.1 hother with rfl | hother
  · cases hfree.symm.trans hget
  · obtain rfl := (List.mem_singleton.1 hother).trans hkey
    exact Option.some.inj (hget.symm.trans hmark)

/-- Only `each` and `let` store anything. -/
theorem name_of_stores {name : String} (h : Stores used name node) :
    used.name = "each" ∨ used.name = "let" := by
  cases h with
  | item hname => exact .inl hname
  | binding hname => exact .inr hname
  | computed hname => exact .inr hname

/-! ## What a config comes to -/

section

variable {escape : Bool}

theorem mem_prepare_object {fields : List (String × Value)} {field : String × Value}
    (h : field ∈ (Render.prepare escape (.object fields)).fieldsOrEmpty) :
    ∃ original ∈ fields, field = (original.1, Render.prepare escape original.2) := by
  cases escape with
  | true =>
    rw [Render.prepare, if_pos rfl, Value.escapeHtml, Value.escapeFields_eq_mapValues] at h
    obtain ⟨original, ho, rfl⟩ := List.mem_map.1 h
    exact ⟨original, ho, rfl⟩
  | false => exact ⟨field, h, rfl⟩

/-- What is stored at a level holds only components that read below it. -/
theorem everyElement_of_storable (htree : ∀ role used, .invocation role used ∈ tree.preorder →
    Registered role used) (hsub : node.preorder ⊆ tree.preorder)
    (hs : Storable rank level node) (henv : Scoped rank tree env)
    (h : Render.Resolves plugins env node value) : value.EveryElement (At rank tree level) := by
  have hsurface := node.surface_subset_preorder
  refine Render.everyElement_of_resolves h (fun reference hm => ?_)
    (fun used hm config found hconfig hcall => ?_) fun used hm => ?_
  · refine (henv.evaluate reference).imp fun found hfound => ?_
    obtain ⟨name, hreads, hat⟩ := hfound
    exact ⟨hat.1, hat.2.mono (hs.handed reference hm name hreads)⟩
  · exact callHelper_everyElement (htree _ used (hsub (hsurface hm))) hconfig hcall
  · exact ⟨hsub (hsurface hm), hs.component used hm⟩

/-- A component that is rendered next: one from the config, nested less deep, or one that
was stored and renders what is below a lower level. -/
def Next (rank : String → Nat) (tree : Node) (level : Nat) (used next : Invocation) : Prop :=
  next.config.depth < used.config.depth ∧ At rank tree level next ∨
    ∃ lower < level, At rank tree lower next

theorem next_of_renders (htree : ∀ role used, .invocation role used ∈ tree.preorder →
    Registered role used) (hused : At rank tree level used) (henv : Scoped rank tree env)
    (hr : Renders used node) (h : Render.Resolves plugins env node value) :
    value.EveryElement (Next rank tree level used) := by
  have hsurface := node.surface_subset_preorder
  have hbelow := preorder_subset_of_renders hr
  have hsub := List.Subset.trans hbelow (Node.preorder_subset_of_mem hused.1)
  obtain ⟨hreads, hnested⟩ := hused.2
  refine Render.everyElement_of_resolves h (fun reference hm => ?_)
    (fun helper hm config found hconfig hcall => ?_) fun next hm => ?_
  · refine (henv.evaluate reference).imp fun found hfound => ?_
    obtain ⟨name, hname, hat⟩ := hfound
    exact .inr ⟨rank name, hreads node hr reference hm name hname, hat⟩
  · exact callHelper_everyElement (htree _ helper (hsub (hsurface hm))) hconfig hcall
  · exact .inl ⟨Node.depth_lt_of_mem (hbelow (hsurface hm)), hsub (hsurface hm),
      hnested node hr next hm⟩

/-- What is under a key of a config is the value of the node under the key. -/
theorem field_of_get? {key : String} {prepared : Value} (hused : ∃ nodes, used.config = .map nodes)
    (h : Render.Resolves plugins env used.config value)
    (hget : (Render.prepare escape value).get? key = some prepared) :
    ∃ node found, used.config.get? key = some node ∧ Render.Resolves plugins env node found ∧
      prepared = Render.prepare escape found := by
  obtain ⟨nodes, hconfig⟩ := hused
  rw [Render.get?_prepare] at hget
  obtain ⟨found, hfound, rfl⟩ := Option.map_eq_some_iff.1 hget
  rw [hconfig] at h ⊢
  obtain ⟨node, hl, hresolves⟩ := Render.exists_lookup_of_resolves h hfound
  exact ⟨node, found, hl, hresolves, rfl⟩

/-- What an element is about is the value of its content, if anything. -/
theorem firstTruthy_content (escape : Bool) (hused : ∃ nodes, used.config = .map nodes)
    (h : Render.Resolves plugins env used.config value) :
    (Render.prepare escape value).firstTruthy [contentKey used.name, mark used.name] = .null ∨
      ∃ node found, Content used node ∧ Render.Resolves plugins env node found ∧
        (Render.prepare escape value).firstTruthy [contentKey used.name, mark used.name] =
          Render.prepare escape found := by
  rcases Value.firstTruthy_cases (Render.prepare escape value)
    [contentKey used.name, mark used.name] with hnull | ⟨key, hkey, hget⟩
  · exact .inl hnull
  · obtain ⟨node, found, hnode, hresolves, hprepared⟩ := field_of_get? hused h hget
    exact .inr ⟨node, found, ⟨key, hkey, hnode⟩, hresolves, hprepared⟩

/-- The name of the items is one that the tree admits. -/
theorem yields_yieldName (escape : Bool) (hused : ∃ nodes, used.config = .map nodes)
    (h : Render.Resolves plugins env used.config value) :
    Yields used (yieldName (Render.prepare escape value)) := by
  obtain ⟨nodes, hconfig⟩ := hused
  rw [hconfig] at h
  have hrel := Render.get?_of_resolves h "yield"
  unfold Yields yieldName
  rw [hconfig, Render.get?_prepare, Node.get?]
  generalize value.get? "yield" = found at hrel
  cases hl : nodes.lookup "yield" with
  | none =>
    rw [hl] at hrel
    cases hrel
    rfl
  | some node =>
    rw [hl] at hrel
    obtain hresolves | _ := hrel
    cases node with
    | bind reference => trivial
    | invocation role name plugin config declaration =>
      cases role with
      | component =>
        obtain rfl := Except.ok.inj hresolves
        cases escape <;> rfl
      | helper => trivial
    | map fields =>
      obtain ⟨values, rfl, -⟩ := Render.resolves_map_iff.1 hresolves
      cases escape <;> rfl
    | sequence items =>
      obtain ⟨values, rfl, -⟩ := Render.resolves_sequence_iff.1 hresolves
      cases escape <;> rfl
    | scalar json =>
      obtain rfl := Except.ok.inj hresolves
      cases json with
      | string text =>
        cases escape with
        | true => exact .inr rfl
        | false => exact .inl rfl
      | _ => cases escape <;> rfl

end

/-- Every component renders below a level that all ranks are below. -/
theorem rendersBelow_of_bounded (h : ∀ name, rank name < level) (used : Invocation) :
    RendersBelow rank level used := by
  induction hd : used.config.depth using Nat.strongRecOn generalizing used with
  | ind depth ih =>
    subst hd
    refine .intro (fun _ _ _ _ name _ => h name) fun node hr next hm => ?_
    refine ih next.config.depth (Node.depth_lt_of_mem ?_) next rfl
    exact preorder_subset_of_renders hr (node.surface_subset_preorder hm)

/-! ## One step -/

section

variable (escape : Bool)
  (htree : ∀ role used, .invocation role used ∈ tree.preorder → Registered role used)
  (hstored : ∀ used, .invocation .component used ∈ tree.preorder →
    ∀ name node, Stores used name node → Storable rank (rank name) node)

include htree hstored

omit hstored in
theorem next_of_content (hused : At rank tree level used)
    (hname : used.name = "paragraph" ∨ used.name = "vbox") (henv : Scoped rank tree env)
    (h : Render.Resolves plugins env used.config value) :
    ((Render.prepare escape value).firstTruthy
      [contentKey used.name, mark used.name]).EveryElement (Next rank tree level used) := by
  rcases firstTruthy_content escape (htree _ _ hused.1).config h with
    hnull | ⟨node, found, hcontent, hfound, hfirst⟩
  · rw [hnull]
    exact .null
  · rw [hfirst]
    exact Render.everyElement_prepare
      (next_of_renders htree hused henv (.content hname hcontent) hfound)

omit hstored in
theorem next_of_child (hused : At rank tree level used)
    (hname : used.name = "each" ∨ used.name = "let") (henv : Scoped rank tree env)
    (h : Render.Resolves plugins env used.config value) :
    ((Render.prepare escape value).getOrNull "do").EveryElement (Next rank tree level used) := by
  unfold Value.getOrNull
  cases hget : (Render.prepare escape value).get? "do" with
  | none => exact .null
  | some child =>
    obtain ⟨node, found, hnode, hfound, rfl⟩ := field_of_get? (htree _ _ hused.1).config h hget
    exact Render.everyElement_prepare
      (next_of_renders htree hused henv (.child hname hnode) hfound)

/-- The items of an `each` are stored at the rank of their name. -/
theorem everyElement_items (hused : .invocation .component used ∈ tree.preorder)
    (hname : used.name = "each") (henv : Scoped rank tree env)
    (h : Render.Resolves plugins env used.config value) :
    ((Render.prepare escape value).firstTruthy ["items", "$each"]).EveryElement
      (At rank tree (rank (yieldName (Render.prepare escape value)))) := by
  have hconfig := (htree _ _ hused).config
  rw [← contentKeys_each hname]
  rcases firstTruthy_content escape hconfig h with
    hnull | ⟨node, found, hcontent, hfound, hfirst⟩
  · rw [hnull]
    exact .null
  · rw [hfirst]
    have hs := hstored used hused _ node (.item hname hcontent (yields_yieldName escape hconfig h))
    have hsub := List.Subset.trans (preorder_subset_of_content hcontent)
      (Node.preorder_subset_of_mem hused)
    exact Render.everyElement_prepare (everyElement_of_storable htree hsub hs henv hfound)

/-- The bindings of a `let` are stored at the ranks of their names. -/
theorem inRank_bindings (hused : .invocation .component used ∈ tree.preorder)
    (hname : used.name = "let") (henv : Scoped rank tree env)
    (h : Render.Resolves plugins env used.config value) :
    InRank rank tree
      ((Render.prepare escape value).firstTruthy ["bindings", "$let"]).fieldsOrEmpty := by
  have hconfig := (htree _ _ hused).config
  rw [← contentKeys_let hname]
  rcases firstTruthy_content escape hconfig h with
    hnull | ⟨node, found, hcontent, hfound, hfirst⟩
  · rw [hnull]
    intro field hm
    cases hm
  · rw [hfirst]
    have hsub := List.Subset.trans (preorder_subset_of_content hcontent)
      (Node.preorder_subset_of_mem hused)
    by_cases hmap : ∃ fields, node = .map fields
    · obtain ⟨fields, rfl⟩ := hmap
      obtain ⟨values, rfl, hvalues⟩ := Render.resolves_map_iff.1 hfound
      intro field hm
      obtain ⟨original, horiginal, rfl⟩ := mem_prepare_object hm
      obtain ⟨binding, hbinding, hkey, hvalue⟩ := hvalues.exists_mem horiginal
      have hs := hstored used hused _ _ (.binding hname hcontent hbinding)
      have hfield := List.Subset.trans (Node.preorder_subset_map hbinding) hsub
      rw [← hkey]
      exact Render.everyElement_prepare (everyElement_of_storable htree hfield hs henv hvalue)
    · intro field hm
      have hs := hstored used hused field.1 node
        (.computed hname hcontent fun fields he => hmap ⟨fields, he⟩)
      have hall := everyElement_of_storable htree hsub hs henv hfound
      exact (Render.everyElement_prepare hall).fieldsOrEmpty hm

/-- What a component asks for is rendered next, in a scope of ranked names. -/
theorem asks_next {config : Value} (hat : At rank tree level used) (henv : Scoped rank tree env)
    (hconfig : Render.prepareConfig plugins escape used.config env = .ok config) :
    ((plugins used.plugin).run config env true).Asks fun child scope =>
      ∀ nested, child = .element nested →
        Next rank tree level used nested ∧ Scoped rank tree scope := by
  obtain ⟨value, hresolves, rfl⟩ := Render.prepareConfig_ok_iff.1 hconfig
  have hitems : used.name = "paragraph" ∨ used.name = "vbox" → ∀ nested, .element nested ∈
      ((Render.prepare escape value).firstTruthy
        [contentKey used.name, mark used.name]).intoItems → Next rank tree level used nested :=
    fun hname nested hm =>
      ((next_of_content escape htree hat hname henv hresolves).mem_intoItems hm).of_element
  have hdo : used.name = "each" ∨ used.name = "let" → ∀ nested,
      (Render.prepare escape value).getOrNull "do" = .element nested →
        Next rank tree level used nested := by
    intro hname nested hnested
    have hchild := next_of_child escape htree hat hname henv hresolves
    rw [hnested] at hchild
    exact hchild.of_element
  rcases (htree _ _ hat.1).component_cases with ⟨hname, hplugin⟩ | ⟨-, hplugin⟩ |
    ⟨hname, hplugin⟩ | ⟨hname, hplugin⟩ | ⟨-, hplugin⟩ | ⟨hname, hplugin⟩
  all_goals rw [hplugin]
  · have hstep : ∀ fields, InRank rank tree fields →
        ∀ item ∈ ((Render.prepare escape value).firstTruthy ["items", "$each"]).intoItems,
          InRank rank tree
            (Fields.insert (yieldName (Render.prepare escape value)) item fields) := by
      intro fields hfields item hitem field hm
      have hall := everyElement_items escape htree hstored hat.1 hname henv hresolves
      rcases Fields.mem_insert hm with rfl | hm
      · exact hall.mem_intoItems hitem
      · exact hfields field hm
    refine (each_asks henv.fieldsOrEmpty hstep).imp fun child scope hasked nested hnested => ?_
    obtain ⟨rfl, fields, rfl, hfields⟩ := hasked
    exact ⟨hdo (.inl hname) nested hnested, .object hfields⟩
  · exact .done _
  · have hbindings := inRank_bindings escape htree hstored hat.1 hname henv hresolves
    refine (scope_asks _ env).imp fun child scope hasked nested hnested => ?_
    obtain ⟨rfl, rfl⟩ := hasked
    exact ⟨hdo (.inr hname) nested hnested, .object hbindings⟩
  · rw [hname] at hitems
    refine (paragraph_asks _ env).imp fun child scope hasked nested hnested => ?_
    obtain ⟨hm, rfl⟩ := hasked
    exact ⟨hitems (.inl rfl) nested (hnested ▸ hm), henv⟩
  · exact .done _
  · rw [hname] at hitems
    refine (vbox_asks _ env).imp fun child scope hasked nested hnested => ?_
    obtain ⟨hm, rfl⟩ := hasked
    exact ⟨hitems (.inr rfl) nested (hnested ▸ hm), henv⟩

/-- Where names have ranks, a rendering encloses only what is rendered next. -/
theorem next_of_transGen {outer inner : Render.Rendering} (hat : At rank tree level outer.1)
    (henv : Scoped rank tree outer.2)
    (h : Relation.TransGen (Render.Encloses plugins escape) outer inner) :
    Next rank tree level outer.1 inner.1 ∧ Scoped rank tree inner.2 := by
  have hstep : ∀ {level : Nat} {outer inner : Render.Rendering}, At rank tree level outer.1 →
      Scoped rank tree outer.2 → Render.Encloses plugins escape outer inner →
      Next rank tree level outer.1 inner.1 ∧ Scoped rank tree inner.2 := by
    intro level outer inner hat henv ⟨config, hconfig, hr⟩
    exact (asks_next escape htree hstored hat henv hconfig).of_requests hr inner.1 rfl
  induction h with
  | single h => exact hstep hat henv h
  | tail _ h ih =>
    obtain ⟨hnext, hscope⟩ := ih
    rcases hnext with ⟨hdepth, hmid⟩ | ⟨lower, hlower, hmid⟩
    · obtain ⟨hinner, hinside⟩ := hstep hmid hscope h
      refine ⟨?_, hinside⟩
      rcases hinner with ⟨hless, hinner⟩ | hbelow
      · exact .inl ⟨Nat.lt_trans hless hdepth, hinner⟩
      · exact .inr hbelow
    · obtain ⟨hinner, hinside⟩ := hstep hmid hscope h
      refine ⟨.inr ?_, hinside⟩
      rcases hinner with ⟨-, hinner⟩ | ⟨lowest, hlowest, hinner⟩
      · exact ⟨lower, hlower, hinner⟩
      · exact ⟨lowest, Nat.lt_trans hlowest hlower, hinner⟩

/-- Where names have ranks, no component is rendered within its own rendering. -/
theorem not_within_itself (hat : At rank tree level used) (henv : Scoped rank tree env)
    {inner : Value} :
    ¬ Relation.TransGen (Render.Encloses plugins escape) (used, env) (used, inner) := by
  intro h
  induction level using Nat.strongRecOn with
  | ind level ih =>
    obtain ⟨hnext, -⟩ := next_of_transGen escape htree hstored hat henv h
    rcases hnext with ⟨hdepth, -⟩ | ⟨lower, hlower, hbelow⟩
    · exact Nat.lt_irrefl _ hdepth
    · exact ih lower hlower hbelow

end

/-- Where names have ranks, nothing has to shrink. -/
theorem shrinks_of_ranked {root : Invocation} {bound : Nat} {escape : Bool}
    {measure : Value → Nat}
    (htree : ∀ role used, .invocation role used ∈ (root.toNode .component).preorder →
      Registered role used)
    (hranked : Ranked rank bound root) (henv : env.EveryElement fun _ => False) :
    Render.Shrinks plugins escape measure (root, env) := by
  have hstored := hranked.stored
  rw [Invocation.toList_elements] at hstored
  have hroot : At rank (root.toNode .component) bound root :=
    ⟨List.mem_cons_self, rendersBelow_of_bounded hranked.bounded root⟩
  intro used scope inner hr hwithin
  refine absurd hwithin ?_
  rcases Relation.reflTransGen_iff_eq_or_transGen.1 hr with he | ht
  · obtain ⟨rfl, rfl⟩ := Prod.mk.inj he
    exact not_within_itself escape htree hstored hroot (.data henv)
  · obtain ⟨hnext, hscope⟩ := next_of_transGen escape htree hstored hroot (.data henv) ht
    rcases hnext with ⟨-, hat⟩ | ⟨lower, -, hat⟩
    · exact not_within_itself escape htree hstored hat hscope
    · exact not_within_itself escape htree hstored hat hscope

end Reference

end DeclaredUi
