import DeclaredUi.Proofs.Declaration.Grammar

/-! A tree says all that its declaration says. Written back, a map as an object, a
bind and an element as what they were read from, it is the declaration it was parsed
from. Declarations and trees have their parts in the same places, so every element
stands where its own declaration stands, and parsing this declaration by itself gives
the element again. -/

namespace DeclaredUi

/-- The values directly below a document, in order. -/
def Json.parts : Json → List Json
  | .array items => items
  | .object fields => fields.map Prod.snd
  | _ => []

/-- The value at an address, which tells the place of the part to enter at each
level. -/
def Json.at? (address : List Nat) (json : Json) : Option Json :=
  address.foldlM (fun current place => current.parts[place]?) json

def Element.toNode : Element → Node
  | .bind reference => .bind reference
  | .invocation role used => used.toNode role

namespace Node

mutual

/-- The declaration that a tree amounts to. -/
def readBack : Node → Json
  | .bind reference => reference.declaration
  | .invocation _ _ _ config _ => readBack config
  | .map fields => .object (readBackFields fields)
  | .sequence items => .array (readBackItems items)
  | .scalar value => value

def readBackItems : List Node → List Json
  | [] => []
  | item :: rest => readBack item :: readBackItems rest

def readBackFields : List (String × Node) → List (String × Json)
  | [] => []
  | (key, node) :: rest => (key, readBack node) :: readBackFields rest

end

@[simp] theorem readBackItems_eq_map (items : List Node) :
    readBackItems items = items.map readBack := by
  induction items with
  | nil => rfl
  | cons item rest ih => simp [readBackItems, ih]

@[simp] theorem readBackFields_eq_mapValues (fields : List (String × Node)) :
    readBackFields fields = Fields.mapValues readBack fields := by
  induction fields with
  | nil => rfl
  | cons pair rest ih => simp [readBackFields, Fields.mapValues, ih]

/-- The nodes directly below a node, in order. What is below an element is what is
below its config. -/
def parts : Node → List Node
  | .bind _ => []
  | .invocation _ _ _ config _ => config.parts
  | .map fields => fields.map Prod.snd
  | .sequence items => items
  | .scalar _ => []

/-- The node at an address. -/
def at? (address : List Nat) (node : Node) : Option Node :=
  address.foldlM (fun current place => current.parts[place]?) node

end Node

namespace Declaration

variable {registry : Registry}

/-! ## Written back -/

theorem readBack_kept {fields : List (String × Json)} {nodes : List (String × Node)}
    (h : List.Forall₂ (Kept registry) fields nodes)
    (ih : ∀ field ∈ fields, ∀ node, (parseNode registry field.2).result = .ok node →
      node.readBack = field.2) :
    Fields.mapValues Node.readBack nodes = fields := by
  induction h with
  | nil => rfl
  | @cons field kept _ _ hk _ ihrest =>
    obtain ⟨hkey, hnode⟩ := hk
    have hvalue : kept.2.readBack = field.2 := by
      split at hnode
      · rw [hnode, Node.readBack]
      · exact ih field List.mem_cons_self kept.2 hnode
    have hrest := ihrest fun other hm => ih other (List.mem_cons_of_mem _ hm)
    change (kept.1, kept.2.readBack) :: Fields.mapValues Node.readBack _ = _
    rw [hrest, hvalue, ← hkey]

theorem readBack_of_parseNode {json : Json} {node : Node}
    (h : (parseNode registry json).result = .ok node) : node.readBack = json := by
  induction json using Json.byParts generalizing node with
  | array items ih =>
    obtain ⟨nodes, rfl, hnodes⟩ := parseNode_array_ok_iff.1 h
    rw [Node.readBack, Node.readBackItems_eq_map]
    clear h
    induction hnodes with
    | nil => rfl
    | cons hnode _ ihrest =>
      have hitem := ih _ List.mem_cons_self hnode
      have hrest := ihrest fun other hm => ih other (List.mem_cons_of_mem _ hm)
      rw [List.map_cons, hitem]
      rw [Json.array.injEq] at hrest ⊢
      rw [hrest]
  | object fields ih =>
    have hfields : ∀ nodes, List.Forall₂ (Kept registry) fields nodes →
        (Node.map nodes).readBack = .object fields := by
      intro nodes hnodes
      rw [Node.readBack, Node.readBackFields_eq_mapValues]
      exact congrArg Json.object (readBack_kept hnodes fun field hm node => ih field hm)
    rcases parseNode_object_ok_iff.1 h with ⟨-, nodes, hnodes, rfl⟩ | ⟨-, path, -, rfl⟩ |
      ⟨entry, -, nodes, hnodes, rfl⟩
    · exact hfields nodes hnodes
    · rfl
    · rw [Node.readBack]
      exact hfields nodes hnodes
  | _ =>
    obtain rfl := Parsed.pure_ok_iff.1 h
    rfl

/-! ## In its place -/

/-- The element stands where its declaration stands, and is what its declaration
parses to. -/
def StandsIn (registry : Registry) (json : Json) (tree : Node) (element : Element) : Prop :=
  (∃ address, tree.at? address = some element.toNode ∧
    json.at? address = some element.declaration) ∧
  (parseNode registry element.declaration).result = .ok element.toNode

/-- What stands in a part stands in the whole. -/
theorem StandsIn.of_part {json source : Json} {tree part : Node} {element : Element} {place : Nat}
    (h : StandsIn registry source part element) (hsource : json.parts[place]? = some source)
    (hpart : tree.parts[place]? = some part) : StandsIn registry json tree element := by
  obtain ⟨⟨address, htree, hjson⟩, hparse⟩ := h
  refine ⟨⟨place :: address, ?_, ?_⟩, hparse⟩
  · rw [Node.at?, List.foldlM_cons, hpart]
    exact htree
  · rw [Json.at?, List.foldlM_cons, hsource]
    exact hjson

/-- The elements below the kept fields of a level stand in every tree that has these
fields below it. -/
theorem standsIn_of_kept {fields : List (String × Json)} {nodes : List (String × Node)}
    (h : List.Forall₂ (Kept registry) fields nodes)
    (ih : ∀ field ∈ fields, ∀ node, (parseNode registry field.2).result = .ok node →
      ∀ element ∈ node.preorder, StandsIn registry field.2 node element)
    {tree : Node} (htree : tree.parts = nodes.map Prod.snd) :
    ∀ element ∈ (Node.map nodes).preorder, StandsIn registry (.object fields) tree element := by
  intro element hm
  obtain ⟨kept, hkept, hm⟩ := Node.mem_preorder_map.1 hm
  obtain ⟨place, hplace⟩ := List.mem_iff_getElem?.1 hkept
  obtain ⟨field, hfield, -, hnode⟩ := getElem?_of_forall₂ h hplace
  have hsource : (Json.object fields).parts[place]? = some field.2 := by
    rw [Json.parts, List.getElem?_map, hfield]
    rfl
  have hpart : tree.parts[place]? = some kept.2 := by
    rw [htree, List.getElem?_map, hplace]
    rfl
  split at hnode
  · -- the value of an explicit name has no elements in it
    rw [hnode] at hm
    cases hm
  · have hbelow := ih field (List.mem_of_getElem? hfield) kept.2 hnode element hm
    exact hbelow.of_part hsource hpart

theorem standsIn_of_parseNode {json : Json} {node : Node}
    (h : (parseNode registry json).result = .ok node) :
    ∀ element ∈ node.preorder, StandsIn registry json node element := by
  induction json using Json.byParts generalizing node with
  | array items ih =>
    obtain ⟨nodes, rfl, hnodes⟩ := parseNode_array_ok_iff.1 h
    intro element hm
    obtain ⟨part, hpart, hm⟩ := Node.mem_preorder_sequence.1 hm
    obtain ⟨place, hplace⟩ := List.mem_iff_getElem?.1 hpart
    obtain ⟨item, hitem, hnode⟩ := getElem?_of_forall₂ hnodes hplace
    exact (ih item (List.mem_of_getElem? hitem) hnode element hm).of_part hitem hplace
  | object fields ih =>
    have hfields : ∀ field ∈ fields, ∀ node, (parseNode registry field.2).result = .ok node →
        ∀ element ∈ node.preorder, StandsIn registry field.2 node element :=
      fun field hm _ hnode => ih field hm hnode
    rcases parseNode_object_ok_iff.1 h with ⟨-, nodes, hnodes, rfl⟩ | ⟨-, path, -, rfl⟩ |
      ⟨entry, -, nodes, hnodes, rfl⟩
    · exact standsIn_of_kept hnodes hfields rfl
    · intro element hm
      obtain rfl := List.mem_singleton.1 hm
      exact ⟨⟨[], rfl, rfl⟩, h⟩
    · intro element hm
      rcases List.mem_cons.1 hm with rfl | hm
      · exact ⟨⟨[], rfl, rfl⟩, h⟩
      · exact standsIn_of_kept hnodes hfields rfl element hm
  | _ =>
    obtain rfl := Parsed.pure_ok_iff.1 h
    intro element hm
    cases hm

/-- What a tree keeps of the declaration it was parsed from. -/
structure Faithful (registry : Registry) (declaration : Json) (root : Invocation) : Prop where
  whole : (root.toNode .component).readBack = declaration
  stands : ∀ element ∈ root.elements.toList,
    StandsIn registry declaration (root.toNode .component) element
  config : ∀ role used, .invocation role used ∈ root.elements.toList →
    used.config.readBack = used.declaration
  component : ∀ used, .invocation .component used ∈ root.elements.toList →
    (parse registry used.declaration).result = .ok used

/-- Parsing loses nothing: written back, the tree is the declaration, and so is each
element in it, which stands in the place of its own declaration and is parsed from it
again. -/
theorem parse_faithful {declaration : Json} {root : Invocation}
    (h : (parse registry declaration).result = .ok root) :
    Faithful registry declaration root := by
  obtain ⟨-, -, hnode⟩ := parse_ok_iff.1 h
  have hstands := standsIn_of_parseNode hnode
  rw [← Invocation.toList_elements] at hstands
  refine ⟨readBack_of_parseNode hnode, hstands, ?config, ?component⟩
  case config =>
    intro role used hm
    have hback := readBack_of_parseNode (hstands _ hm).2
    rwa [Element.toNode, Invocation.toNode, Node.readBack] at hback
  case component =>
    intro used hm
    obtain ⟨fields, -, hobject, -⟩ := declaredBy_of_parse h hm
    exact parse_ok_iff.2 ⟨fields, hobject, (hstands _ hm).2⟩

/-- A box with an explicit name, a note beside a bind and a key that names nothing. -/
def bulletin : Json :=
  .object [("$component", .string "vbox"), ("$helper", .null), ("children", .array
    [.object [("$bind", .string "rows"), ("note", .object [("$text", .bool true)])],
     .object [("separator", .string ", "), ("$join", .array [.object [("$bind", .string "names")]]),
       ("$unknown", .object [("$text", .null)])]])]

theorem bulletin_faithful : ∃ root, (parse Reference.registry bulletin).result = .ok root ∧
    root.elements.toList.length = 5 ∧ Faithful Reference.registry bulletin root := by
  refine ⟨_, rfl, ?_, parse_faithful rfl⟩
  rw [Invocation.toList_elements]
  rfl

end Declaration

end DeclaredUi
