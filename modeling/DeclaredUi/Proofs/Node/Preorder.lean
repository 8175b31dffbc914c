import DeclaredUi.Node.Elements
import DeclaredUi.Proofs.Parts

/-! The walk hands out the pre-order list. A stack stands for the elements below
its frames, front to back; each step takes the first of them off, so a walk that
runs dry has listed them all. -/

namespace DeclaredUi

namespace Walk

/-- The elements that a frame stands for. -/
def Frame.listed : Frame → List Element
  | .element found => found :: found.subtrees.flatMap Node.preorder
  | .subtree node => node.preorder

/-- The elements that a stack stands for. -/
def listed (stack : List Frame) : List Element := stack.flatMap Frame.listed

theorem listed_ofItems (items : List Node) (rest : List Frame) :
    listed (Frame.ofItems items ++ rest) = items.flatMap Node.preorder ++ listed rest := by
  simp [listed, Frame.ofItems, Frame.listed, List.flatMap_map]

theorem listed_ofFields (fields : List (String × Node)) (rest : List Frame) :
    listed (Frame.ofFields fields ++ rest) =
      (fields.flatMap fun pair => pair.2.preorder) ++ listed rest := by
  simp [listed, Frame.ofFields, Frame.listed, List.flatMap_map]

/-- One step takes the first element off the list. -/
theorem listed_nextOf (stack : List Frame) :
    listed stack = match nextOf stack with
      | some (element, rest) => element :: listed rest
      | none => [] := by
  fun_induction nextOf stack with
  | case1 => rfl
  | case2 found rest =>
    change listed (.element found :: rest) = found :: listed (Frame.ofItems found.subtrees ++ rest)
    rw [listed_ofItems]
    rfl
  | case3 reference rest => rfl
  | case4 role name plugin config declaration rest => rfl
  | case5 fields rest ih =>
    rw [← ih, listed_ofFields]
    simp [listed, Frame.listed, Node.preorder]
  | case6 items rest ih =>
    rw [← ih, listed_ofItems]
    simp [listed, Frame.listed, Node.preorder]
  | case7 value rest ih => exact ih

theorem drain_eq_listed (stack : List Frame) : drain stack = listed stack := by
  fun_induction drain stack with
  | case1 stack element rest found ih => rw [listed_nextOf, found, ih]
  | case2 stack found => rw [listed_nextOf, found]

end Walk

namespace Node

theorem preorder_subset_invocation (role : Role) (name : String) (plugin : PluginId)
    (config : Node) (declaration : Json) :
    config.preorder ⊆ (Node.invocation role name plugin config declaration).preorder :=
  fun _ h => List.mem_cons_of_mem _ h

theorem mem_preorder_map {fields : List (String × Node)} {element : Element} :
    element ∈ (Node.map fields).preorder ↔ ∃ pair ∈ fields, element ∈ pair.2.preorder := by
  rw [preorder, preorderFields_eq_flatMap, List.mem_flatMap]

theorem mem_preorder_sequence {items : List Node} {element : Element} :
    element ∈ (Node.sequence items).preorder ↔ ∃ item ∈ items, element ∈ item.preorder := by
  rw [preorder, preorderItems_eq_flatMap, List.mem_flatMap]

theorem preorder_subset_map {fields : List (String × Node)} {pair : String × Node}
    (h : pair ∈ fields) : pair.2.preorder ⊆ (Node.map fields).preorder :=
  fun _ he => mem_preorder_map.2 ⟨pair, h, he⟩

theorem preorder_subset_sequence {items : List Node} {item : Node} (h : item ∈ items) :
    item.preorder ⊆ (Node.sequence items).preorder :=
  fun _ he => mem_preorder_sequence.2 ⟨item, h, he⟩

/-- Below an element of a subtree there are only elements of that subtree. -/
theorem preorder_subset_of_mem {node : Node} {role : Role} {used : Invocation}
    (h : Element.invocation role used ∈ node.preorder) :
    used.config.preorder ⊆ node.preorder := by
  induction node using Node.byParts with
  | bind reference => simp [preorder] at h
  | invocation role' name plugin config declaration ih =>
    have below := preorder_subset_invocation role' name plugin config declaration
    rw [preorder, List.mem_cons] at h
    rcases h with h | h
    · obtain ⟨-, rfl⟩ := Element.invocation.inj h
      exact below
    · exact fun _ he => below (ih h he)
  | map fields ih =>
    obtain ⟨pair, hm, h⟩ := mem_preorder_map.1 h
    exact fun _ he => preorder_subset_map hm (ih pair hm h he)
  | sequence items ih =>
    obtain ⟨item, hm, h⟩ := mem_preorder_sequence.1 h
    exact fun _ he => preorder_subset_sequence hm (ih item hm h he)
  | scalar value => simp [preorder] at h

end Node

/-- The walk over a subtree hands out its elements in pre-order. -/
theorem Node.toList_elements (node : Node) : node.elements.toList = node.preorder := by
  simp [Node.elements, Walk.toList, Walk.drain_eq_listed, Walk.listed, Walk.Frame.listed]

/-- The walk over a component is the walk over the component as a node. -/
theorem Invocation.toList_elements (component : Invocation) :
    component.elements.toList = (component.toNode .component).preorder := by
  simp [Invocation.elements, Walk.toList, Walk.drain_eq_listed, Walk.listed, Walk.Frame.listed,
    Element.subtrees, Invocation.toNode, Node.preorder]

end DeclaredUi
