import DeclaredUi.Proofs.Node.Preorder

/-! What lies at the surface of a tree. A component in a config is handed over as it
is, so the value of a tree depends only on what is outside of its components, and
holds those components only that nothing else encloses. How far components enclose
each other is the depth of the tree. -/

namespace DeclaredUi

namespace Node

mutual

/-- The elements that no component of the tree encloses, in pre-order. -/
def surface : Node → List Element
  | .bind reference => [.bind reference]
  | .invocation .component name plugin config declaration =>
    [.invocation .component ⟨name, plugin, config, declaration⟩]
  | .invocation .helper name plugin config declaration =>
    .invocation .helper ⟨name, plugin, config, declaration⟩ :: surface config
  | .map fields => surfaceFields fields
  | .sequence items => surfaceItems items
  | .scalar _ => []

def surfaceItems : List Node → List Element
  | [] => []
  | item :: rest => surface item ++ surfaceItems rest

def surfaceFields : List (String × Node) → List Element
  | [] => []
  | (_, node) :: rest => surface node ++ surfaceFields rest

end

@[simp] theorem surfaceItems_eq_flatMap (items : List Node) :
    surfaceItems items = items.flatMap surface := by
  induction items with
  | nil => rfl
  | cons item rest ih => simp [surfaceItems, ih]

@[simp] theorem surfaceFields_eq_flatMap (fields : List (String × Node)) :
    surfaceFields fields = fields.flatMap fun pair => surface pair.2 := by
  induction fields with
  | nil => rfl
  | cons pair rest ih => simp [surfaceFields, ih]

mutual

/-- How many components enclose each other at most. -/
def depth : Node → Nat
  | .bind _ => 0
  | .invocation .component _ _ config _ => depth config + 1
  | .invocation .helper _ _ config _ => depth config
  | .map fields => depthFields fields
  | .sequence items => depthItems items
  | .scalar _ => 0

def depthItems : List Node → Nat
  | [] => 0
  | item :: rest => max (depth item) (depthItems rest)

def depthFields : List (String × Node) → Nat
  | [] => 0
  | (_, node) :: rest => max (depth node) (depthFields rest)

end

theorem surface_subset_map {fields : List (String × Node)} {pair : String × Node}
    (h : pair ∈ fields) : pair.2.surface ⊆ (Node.map fields).surface := by
  intro element he
  rw [surface, surfaceFields_eq_flatMap]
  exact List.mem_flatMap.2 ⟨pair, h, he⟩

theorem surface_subset_sequence {items : List Node} {item : Node} (h : item ∈ items) :
    item.surface ⊆ (Node.sequence items).surface := by
  intro element he
  rw [surface, surfaceItems_eq_flatMap]
  exact List.mem_flatMap.2 ⟨item, h, he⟩

theorem surface_subset_preorder (node : Node) : node.surface ⊆ node.preorder := by
  induction node using Node.byParts with
  | bind reference => exact fun _ h => h
  | invocation role name plugin config declaration ih =>
    cases role with
    | component =>
      intro element h
      rw [List.mem_singleton.1 h]
      exact List.mem_cons_self
    | helper => exact List.cons_subset_cons _ ih
  | map fields ih =>
    intro element h
    rw [surface, surfaceFields_eq_flatMap] at h
    obtain ⟨pair, hm, h⟩ := List.mem_flatMap.1 h
    exact preorder_subset_map hm (ih pair hm h)
  | sequence items ih =>
    intro element h
    rw [surface, surfaceItems_eq_flatMap] at h
    obtain ⟨item, hm, h⟩ := List.mem_flatMap.1 h
    exact preorder_subset_sequence hm (ih item hm h)
  | scalar value => exact fun _ h => h

theorem depth_le_map {fields : List (String × Node)} {pair : String × Node} (h : pair ∈ fields) :
    pair.2.depth ≤ (Node.map fields).depth := by
  rw [depth]
  induction fields with
  | nil => cases h
  | cons first rest ih =>
    rw [depthFields]
    rcases List.mem_cons.1 h with rfl | h
    · exact Nat.le_max_left _ _
    · exact Nat.le_trans (ih h) (Nat.le_max_right _ _)

theorem depth_le_sequence {items : List Node} {item : Node} (h : item ∈ items) :
    item.depth ≤ (Node.sequence items).depth := by
  rw [depth]
  induction items with
  | nil => cases h
  | cons first rest ih =>
    rw [depthItems]
    rcases List.mem_cons.1 h with rfl | h
    · exact Nat.le_max_left _ _
    · exact Nat.le_trans (ih h) (Nat.le_max_right _ _)

/-- A component in a tree has less below it than the tree. -/
theorem depth_lt_of_mem {node : Node} {used : Invocation}
    (h : .invocation .component used ∈ node.preorder) : used.config.depth < node.depth := by
  induction node using Node.byParts with
  | bind reference => simp [preorder] at h
  | invocation role name plugin config declaration ih =>
    rcases List.mem_cons.1 h with h | h
    · obtain ⟨rfl, rfl⟩ := Element.invocation.inj h
      exact Nat.lt_succ_self _
    · have hconfig := ih h
      cases role with
      | component => exact Nat.lt_succ_of_lt hconfig
      | helper => exact hconfig
  | map fields ih =>
    obtain ⟨pair, hm, h⟩ := mem_preorder_map.1 h
    exact Nat.lt_of_lt_of_le (ih pair hm h) (depth_le_map hm)
  | sequence items ih =>
    obtain ⟨item, hm, h⟩ := mem_preorder_sequence.1 h
    exact Nat.lt_of_lt_of_le (ih item hm h) (depth_le_sequence hm)
  | scalar value => simp [preorder] at h

end Node

end DeclaredUi
