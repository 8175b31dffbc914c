import DeclaredUi.Proofs.Declaration.Grammar

/-! The elements of a tree that was parsed with the reference registry. Each is an entry
of the registry in its own role, with the fields of its level as its config; what it is
about stands there under its marked name or under the explicit key for it. -/

namespace DeclaredUi

namespace Reference

/-- The explicit key for what an element holds under its marked name. -/
def contentKey (name : String) : String :=
  match name with
  | "each" => "items"
  | "image" => "source"
  | "if" => "condition"
  | "join" => "items"
  | "let" => "bindings"
  | "paragraph" => "sentences"
  | "text" => "content"
  | "vbox" => "children"
  | other => other

theorem contentKeys_each {used : Invocation} (h : used.name = "each") :
    [contentKey used.name, mark used.name] = ["items", "$each"] := by
  rw [h]
  rfl

theorem contentKeys_let {used : Invocation} (h : used.name = "let") :
    [contentKey used.name, mark used.name] = ["bindings", "$let"] := by
  rw [h]
  rfl

/-- An element as a declaration names it. -/
structure Registered (role : Role) (used : Invocation) : Prop where
  entry : ⟨used.name, used.plugin, role⟩ ∈ registry.entries
  config : ∃ nodes, used.config = .map nodes

theorem mem_entries_of_names {entry : Registry.Entry} {fields : List (String × Json)}
    (h : Declaration.Names registry fields entry) : entry ∈ registry.entries := by
  cases h with
  | shorthand _ _ _ hg => exact (Registry.get?_eq_some hg).1
  | explicit _ _ hg => exact (Registry.get?_eq_some hg).1

theorem registered_of_declaredBy {role : Role} {used : Invocation}
    (h : Declaration.DeclaredBy registry role used) : Registered role used := by
  obtain ⟨fields, nodes, -, hconfig, -, hnames⟩ := h
  exact ⟨mem_entries_of_names hnames, nodes, hconfig⟩

/-- Every element of a declaration that is accepted is registered. -/
theorem registered_of_parse {declaration : Json} {root : Invocation}
    (h : (Declaration.parse registry declaration).result = .ok root) (role : Role)
    (used : Invocation) (hm : .invocation role used ∈ (root.toNode .component).preorder) :
    Registered role used := by
  rw [← Invocation.toList_elements] at hm
  exact registered_of_declaredBy (Declaration.declaredBy_of_parse h hm)

theorem Registered.component_cases {used : Invocation} (h : Registered .component used) :
    used.name = "each" ∧ used.plugin = ⟨0⟩ ∨ used.name = "image" ∧ used.plugin = ⟨1⟩ ∨
      used.name = "let" ∧ used.plugin = ⟨4⟩ ∨ used.name = "paragraph" ∧ used.plugin = ⟨5⟩ ∨
      used.name = "text" ∧ used.plugin = ⟨6⟩ ∨ used.name = "vbox" ∧ used.plugin = ⟨7⟩ := by
  have hentry := h.entry
  simpa only [registry, List.mem_cons, List.not_mem_nil, or_false, Registry.Entry.mk.injEq,
    reduceCtorEq, and_false, and_true, false_or] using hentry

theorem plugin_mem_table {entry : Registry.Entry} (he : entry ∈ registry.entries) :
    plugins entry.plugin ∈ table.map Prod.snd := by
  simp only [registry, List.mem_cons, List.not_mem_nil, or_false] at he
  rcases he with rfl | rfl | rfl | rfl | rfl | rfl | rfl | rfl <;>
    simp [plugins, Plugins.ofList, table]

end Reference

end DeclaredUi
