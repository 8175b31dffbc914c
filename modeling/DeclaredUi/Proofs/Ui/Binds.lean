import DeclaredUi.Proofs.Declaration.ReadBack
import DeclaredUi.Proofs.Ui
import DeclaredUi.Proofs.Ui.Selection

/-! The binds of a tree that was parsed, asked for by their kind and by their name. An
element parses back from its own declaration, so the path in it is the path of a bind, and
there is none beside a plug-in. A marked key never names the plug-in that is registered as
`bind`, but an explicit one does: only with such a plug-in the two queries come apart. -/

namespace DeclaredUi

namespace Declaration

/-- The path that a declaration of a bind holds. -/
def bindPath? : Json → Option String
  | .object fields => (fields.lookup bindKey).bind Json.string?
  | _ => none

/-- A declaration of an element called `bind`: that of a bind by its path, or one without a
path that names a registered plug-in so. -/
inductive CalledBind (registry : Registry) : Json → Prop
  | bind {fields : List (String × Json)} {path : String} :
      fields.lookup bindKey = some (.string path) → CalledBind registry (.object fields)
  | plugin {fields : List (String × Json)} {key : String} : registry.contains "bind" = true →
      key = componentKey ∨ key = helperKey → fields.lookup key = some (.string "bind") →
      fields.lookup bindKey = none → CalledBind registry (.object fields)

variable {registry : Registry}

/-- An element is parsed from a map. -/
theorem object_of_parseNode {json : Json} {element : Element}
    (h : (parseNode registry json).result = .ok element.toNode) :
    ∃ fields, json = .object fields := by
  cases json with
  | object fields => exact ⟨fields, rfl⟩
  | array items =>
    obtain ⟨nodes, hnode, -⟩ := parseNode_array_ok_iff.1 h
    cases element <;> cases hnode
  | _ => cases element <;> cases Parsed.pure_ok_iff.1 h

theorem bind_of_parseNode {json : Json} {reference : Bind}
    (h : (parseNode registry json).result = .ok (.bind reference)) :
    ∃ fields, json = .object fields ∧ fields.lookup bindKey = some (.string reference.path) := by
  have helement : (parseNode registry json).result = .ok (Element.bind reference).toNode := h
  obtain ⟨fields, rfl⟩ := object_of_parseNode helement
  rcases parseNode_object_ok_iff.1 h with ⟨-, nodes, -, hnode⟩ | ⟨-, path, hpath, hnode⟩ |
    ⟨entry, -, nodes, -, hnode⟩
  · cases hnode
  · obtain rfl := Node.bind.inj hnode
    refine ⟨fields, rfl, ?_⟩
    cases hl : fields.lookup bindKey with
    | none =>
      rw [hl] at hpath
      cases hpath
    | some value =>
      rw [hl] at hpath
      exact congrArg some hpath
  · cases hnode

theorem invocation_of_parseNode {json : Json} {role : Role} {used : Invocation}
    (h : (parseNode registry json).result = .ok (used.toNode role)) :
    ∃ fields, json = .object fields ∧ fields.lookup bindKey = none ∧
      Names registry fields ⟨used.name, used.plugin, role⟩ := by
  have helement : (parseNode registry json).result =
      .ok (Element.invocation role used).toNode := h
  obtain ⟨fields, rfl⟩ := object_of_parseNode helement
  rcases parseNode_object_ok_iff.1 h with ⟨-, nodes, -, hnode⟩ | ⟨-, path, -, hnode⟩ |
    ⟨entry, hc, nodes, -, hnode⟩
  · cases hnode
  · cases hnode
  · obtain ⟨hrole, hname, hplugin, -, -⟩ := Node.invocation.inj hnode
    refine ⟨fields, rfl, lookup_bind_of_candidates hc (by simp), ?_⟩
    rw [hrole, hname, hplugin]
    exact ((candidates_spec hc).2.2 entry).1 (by simp)

/-- The path in the declaration of an element is that of the element, if it is a bind. -/
theorem bindPath?_of_parseNode {element : Element}
    (h : (parseNode registry element.declaration).result = .ok element.toNode) :
    bindPath? element.declaration = element.bindPath? := by
  cases element with
  | bind reference =>
    obtain ⟨fields, hfields, hpath⟩ := bind_of_parseNode h
    rw [hfields, bindPath?, hpath]
    rfl
  | invocation role used =>
    obtain ⟨fields, hfields, hnone, -⟩ := invocation_of_parseNode h
    rw [hfields, bindPath?, hnone]
    rfl

/-- The reserved key of binds names no plug-in. -/
theorem explicit_of_names_bind {fields : List (String × Json)} {entry : Registry.Entry}
    (h : Names registry fields entry) (hname : entry.name = "bind") :
    registry.contains "bind" = true ∧ ∃ key, (key = componentKey ∨ key = helperKey) ∧
      fields.lookup key = some (.string "bind") := by
  cases h with
  | @shorthand key name _ _ hr hkey hg =>
    obtain rfl : name = "bind" := (Registry.get?_eq_some hg).2.symm.trans hname
    rw [hkey] at hr
    exact absurd (by decide) hr
  | @explicit key name _ hk hl hg =>
    obtain rfl : name = "bind" := (Registry.get?_eq_some hg).2.symm.trans hname
    exact ⟨by rw [Registry.contains, hg]; rfl, key, hk, hl⟩

theorem calledBind_of_parseNode {element : Element}
    (h : (parseNode registry element.declaration).result = .ok element.toNode)
    (hname : element.name = "bind") : CalledBind registry element.declaration := by
  cases element with
  | bind reference =>
    obtain ⟨fields, hfields, hpath⟩ := bind_of_parseNode h
    rw [hfields]
    exact .bind hpath
  | invocation role used =>
    obtain ⟨fields, hfields, hnone, hnames⟩ := invocation_of_parseNode h
    obtain ⟨hregistered, key, hk, hl⟩ := explicit_of_names_bind hnames hname
    rw [hfields]
    exact .plugin hregistered hk hl hnone

end Declaration

/-- Only binds have a path. -/
theorem Element.name_of_bindPath? {element : Element} {path : String}
    (h : element.bindPath? = some path) : element.name = "bind" := by
  cases element with
  | bind reference => rfl
  | invocation role used => cases h

namespace Ui

open Declaration

/-- In a tree that was parsed, every declaration of an element called `bind` is that of a
bind by its path, or that of a plug-in registered under this name, without a path. The paths
of the former, each once in the order in which they first occur, are the bind paths. -/
theorem uniqueBindPaths_of_eachElement {ui parsed : Ui} {declaration : Json} {root : Invocation}
    (h : ui.parse declaration = (parsed, .ok root)) :
    ∃ found, parsed.eachElement (.ofNames ["bind"]) = .ok found ∧
      (∀ part ∈ found, CalledBind ui.registry part) ∧
      parsed.uniqueBindPaths = .ok (found.filterMap bindPath?).eraseDups := by
  obtain ⟨hresult, -, hrenderer⟩ := installed_of_parse h
  have hroot : parsed.root? = some root := by
    rw [root?, hrenderer]
    rfl
  have hparsed : ∀ element ∈ (root.toNode .component).preorder,
      (parseNode ui.registry element.declaration).result = .ok element.toNode := by
    rw [← Invocation.toList_elements]
    exact fun element hm => ((parse_faithful hresult).stands element hm).2
  have hcalled : ∀ name, (ElementFilter.ofNames ["bind"]).accepts name = true ↔ name = "bind" :=
    fun name => by simp [ElementFilter.ofNames, ElementFilter.accepts, unmark?, marker]
  refine ⟨_, (visits_of_root hroot (.ofNames ["bind"])).listed, ?_, ?_⟩
  · intro part hpart
    obtain ⟨element, hfiltered, rfl⟩ := List.mem_map.1 hpart
    obtain ⟨hm, haccepts⟩ := List.mem_filter.1 hfiltered
    exact calledBind_of_parseNode (hparsed element hm) ((hcalled _).1 haccepts)
  · have hpaths : ((root.toNode .component).preorder.filter fun element =>
          (ElementFilter.ofNames ["bind"]).accepts element.name).filterMap
            (fun element => bindPath? element.declaration) =
        (root.toNode .component).preorder.filterMap Element.bindPath? := by
      rw [List.filterMap_filter]
      refine List.filterMap_congr fun element hm => ?_
      rw [bindPath?_of_parseNode (hparsed element hm)]
      cases hpath : element.bindPath? with
      | none => exact ite_self none
      | some path => rw [if_pos ((hcalled _).2 (Element.name_of_bindPath? hpath))]
    rw [List.filterMap_map, uniqueBindPaths_of_root hroot]
    exact congrArg (fun paths => Except.ok paths.eraseDups) hpaths.symm

/-- A plug-in that is registered as `bind`, for texts, beside one for boxes. -/
def namesakes : List (String × PluginId) := [("vbox", ⟨7⟩), ("bind", ⟨6⟩)]

/-- Two binds of one path around an element of the namesake with a bind in it. -/
def namesake : Json :=
  .object [("$vbox", .array
    [.object [("$bind", .string "a")],
     .object [("content", .object [("$bind", .string "b")]), ("$component", .string "bind")],
     .object [("$bind", .string "a"), ("note", .null)]])]

theorem namesake_bindPaths : ∃ registry parsed root found,
    Registry.ofList Reference.plugins namesakes = .ok registry ∧
      (Ui.mk Reference.plugins registry {} .silent none).parse namesake = (parsed, .ok root) ∧
      parsed.eachElement (.ofNames ["bind"]) = .ok found ∧ found.length = 4 ∧
      (∀ part ∈ found, CalledBind registry part) ∧
      parsed.uniqueBindPaths = .ok ["a", "b"] := by
  have hparsed : ∃ parsed root, (Ui.mk Reference.plugins
      ⟨[⟨"vbox", ⟨7⟩, .component⟩, ⟨"bind", ⟨6⟩, .component⟩]⟩ {} .silent none).parse namesake =
        (parsed, .ok root) ∧ parsed.root? = some root ∧
      ∃ listed, ((root.toNode .component).preorder.filter fun element =>
        (ElementFilter.ofNames ["bind"]).accepts element.name).map Element.declaration = listed ∧
        listed.length = 4 ∧ (listed.filterMap bindPath?).eraseDups = ["a", "b"] :=
    ⟨_, _, rfl, rfl, _, rfl, rfl, rfl⟩
  obtain ⟨parsed, root, hparse, hroot, listed, hlisted, hlength, herased⟩ := hparsed
  obtain ⟨found, heach, hcalled, hpaths⟩ := uniqueBindPaths_of_eachElement hparse
  have hfound : found = listed := by
    have h := heach.symm.trans (visits_of_root hroot (.ofNames ["bind"])).listed
    rw [← hlisted]
    exact Except.ok.inj h
  rw [← hfound] at hlength herased
  rw [herased] at hpaths
  exact ⟨_, parsed, root, found, rfl, hparse, heach, hlength, hcalled, hpaths⟩

/-- A registered plug-in may be called `bind`, and then it is found by this name. -/
theorem eachElement_finds_namesake : ∃ registry parsed root,
    Registry.ofList Reference.plugins namesakes = .ok registry ∧
      (Ui.mk Reference.plugins registry {} .silent none).parse
        (.object [("$component", .string "bind")]) = (parsed, .ok root) ∧
      parsed.eachElement (.ofNames ["bind"]) = .ok [.object [("$component", .string "bind")]] ∧
      bindPath? (.object [("$component", .string "bind")]) = none ∧
      parsed.uniqueBindPaths = .ok [] := by
  have hparsed : ∃ parsed root, (Ui.mk Reference.plugins
      ⟨[⟨"vbox", ⟨7⟩, .component⟩, ⟨"bind", ⟨6⟩, .component⟩]⟩ {} .silent none).parse
        (.object [("$component", .string "bind")]) = (parsed, .ok root) ∧
      parsed.root? = some root ∧ (root.toNode .component).preorder =
        [.invocation .component root] ∧ root.name = "bind" ∧
      root.declaration = .object [("$component", .string "bind")] :=
    ⟨_, _, rfl, rfl, rfl, rfl, rfl⟩
  obtain ⟨parsed, root, hparse, hroot, hpreorder, hname, hdeclaration⟩ := hparsed
  have heach := (visits_of_root hroot (.ofNames ["bind"])).listed
  have hpaths := uniqueBindPaths_of_root hroot
  rw [hpreorder] at heach hpaths
  refine ⟨_, parsed, root, rfl, hparse, heach.trans ?_, rfl, hpaths⟩
  simp [Element.name, Element.declaration, hname, hdeclaration, ElementFilter.ofNames,
    ElementFilter.accepts, unmark?, marker]

end Ui

end DeclaredUi
