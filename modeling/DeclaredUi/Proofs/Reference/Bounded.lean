import DeclaredUi.Proofs.Reference.Ending
import DeclaredUi.Proofs.Render.Stack

/-! Trees that keep components out of environments. Where no `let` binds a component and no
`each` goes through one, scopes hold no components, so whatever a component has rendered
stands in its own config. Renderings that go on at one time descend in the tree, and there
are no more of them than components enclose each other. -/

namespace DeclaredUi

namespace Reference

/-- No component stands below what a `let` binds or what an `each` goes through. -/
def KeepsOut (root : Invocation) : Prop :=
  ∀ used, .invocation .component used ∈ root.elements.toList →
    used.name = "each" ∨ used.name = "let" → ∀ node, Content used node →
      ∀ nested, .invocation .component nested ∉ node.preorder

variable {tree : Node} {escape : Bool} {env : Value} {outer inner : Render.Rendering}

/-- A component asks for components of its own config, in environments without any. -/
theorem nested_of_encloses (hused : Registered .component outer.1)
    (hbelow : ∀ role used, .invocation role used ∈ outer.1.config.preorder → Registered role used)
    (hstored : outer.1.name = "each" ∨ outer.1.name = "let" → ∀ node, Content outer.1 node →
      ∀ nested, .invocation .component nested ∉ node.preorder)
    (henv : outer.2.EveryElement fun _ => False)
    (he : Render.Encloses plugins escape outer inner) :
    .invocation .component inner.1 ∈ outer.1.config.preorder ∧
      inner.2.EveryElement fun _ => False := by
  obtain ⟨config, hconfig, hr⟩ := he
  obtain ⟨value, hresolves, rfl⟩ := Render.prepareConfig_ok_iff.1 hconfig
  have hprepared : (Render.prepare escape value).EveryElement
      fun used => .invocation .component used ∈ outer.1.config.preorder :=
    Render.everyElement_prepare
      (everyElement_of_resolves hbelow (henv.imp fun _ h => h.elim) (fun _ hm => hm) hresolves)
  have hcontent : outer.1.name = "each" ∨ outer.1.name = "let" →
      ((Render.prepare escape value).firstTruthy
        [contentKey outer.1.name, mark outer.1.name]).EveryElement fun _ => False := by
    intro hname
    rcases firstTruthy_content escape hused.config hresolves with
      hnull | ⟨node, found, hnode, hfound, hfirst⟩
    · rw [hnull]
      exact .null
    · rw [hfirst]
      have hsub := preorder_subset_of_content hnode
      exact Render.everyElement_prepare (everyElement_of_resolves
        (fun role used hm => hbelow role used (hsub hm)) henv (hstored hname node hnode) hfound)
  obtain ⟨hchild, hscope⟩ := (asks_stored hused hprepared henv hcontent).of_requests hr
  exact ⟨hchild.of_element, hscope⟩

/-- A stack that descends in the tree: as much is left of the depth as its top can use, and
no environment on it holds a component. -/
structure Descends (tree : Node) (stack : List Render.Rendering) : Prop where
  top : ∀ top ∈ stack.head?, .invocation .component top.1 ∈ tree.preorder ∧
    stack.length + top.1.config.depth ≤ tree.depth
  envs : ∀ rendering ∈ stack, rendering.2.EveryElement fun _ => False

theorem Descends.length_le {stack : List Render.Rendering} (h : Descends tree stack) :
    stack.length ≤ tree.depth := by
  cases stack with
  | nil => exact Nat.zero_le _
  | cons top rest => exact Nat.le_trans (Nat.le_add_right _ _) (h.top top rfl).2

/-- Every stack of renderings of a tree that keeps components out descends in it. -/
theorem descends_of_active {root : Invocation} {stack : List Render.Rendering}
    (htree : ∀ role used, .invocation role used ∈ (root.toNode .component).preorder →
      Registered role used)
    (hkeeps : KeepsOut root) (henv : env.EveryElement fun _ => False)
    (h : Render.Active plugins escape (root, env) stack) :
    Descends (root.toNode .component) stack := by
  induction h with
  | root =>
    refine ⟨?_, List.forall_mem_singleton.2 henv⟩
    rintro top ⟨⟩
    exact ⟨List.mem_cons_self, Nat.le_of_eq (Nat.add_comm 1 _)⟩
  | @nested outer inner rest _ he ih =>
    obtain ⟨houter, hroom⟩ := ih.top outer rfl
    have hsub := Node.preorder_subset_of_mem houter
    have hstored := hkeeps outer.1 (by rwa [Invocation.toList_elements])
    obtain ⟨hinner, hscope⟩ := nested_of_encloses (htree _ _ houter)
      (fun role used hm => htree role used (hsub hm)) hstored
      (ih.envs outer List.mem_cons_self) he
    refine ⟨?_, List.forall_mem_cons.2 ⟨hscope, ih.envs⟩⟩
    rintro top ⟨⟩
    -- one more on the stack, and less below its top
    have hless := Node.depth_lt_of_mem hinner
    refine ⟨hsub hinner, ?_⟩
    simp only [List.length_cons] at hroom ⊢
    omega

end Reference

namespace Ui

/-- Where components are kept out of environments, renderings are given environments without
components, no more of them go on at one time than components enclose each other in the tree,
and rendering returns within this limit. -/
theorem render_within_depth {ui parsed : Ui} {declaration : Json} {root : Invocation}
    (hplugins : ui.plugins = Reference.plugins) (hregistry : ui.registry = Reference.registry)
    (hparse : ui.parse declaration = (parsed, .ok root)) (hkeeps : Reference.KeepsOut root)
    {env : Value} (henv : env.EveryElement fun _ => False) :
    (∀ stack, Render.Active Reference.plugins ui.options.escapeHtml (root, env) stack →
      stack.length ≤ (root.toNode .component).depth ∧
        ∀ rendering ∈ stack, rendering.2.EveryElement fun _ => False) ∧
    ∃ outcome : Outcome Value, outcome ≠ .error .tooDeep ∧
      ∀ limit, (root.toNode .component).depth ≤ limit → parsed.render limit env = outcome := by
  obtain ⟨hroot, hsame, hrenderer⟩ := installed_of_parse hparse
  rw [hregistry] at hroot
  have hdescends : ∀ stack, Render.Active Reference.plugins ui.options.escapeHtml (root, env)
      stack → Reference.Descends (root.toNode .component) stack := fun stack =>
    Reference.descends_of_active (Reference.registered_of_parse hroot) hkeeps henv
  refine ⟨fun stack h => ⟨(hdescends stack h).length_le, (hdescends stack h).envs⟩, ?_⟩
  have hends : Render.component Reference.plugins ui.options.escapeHtml
      (root.toNode .component).depth root env ≠ .error .tooDeep := by
    intro h
    obtain ⟨stack, hstack, hlength⟩ := (Render.component_tooDeep_iff _ (root, env)).1 h
    exact Nat.not_lt.2 (hdescends stack hstack).length_le hlength
  refine ⟨_, Outcome.guarded_ne_tooDeep hends, fun limit hlimit => ?_⟩
  unfold render Renderer.render
  rw [hrenderer, hsame, hplugins]
  exact congrArg Outcome.guarded (Render.component_eq_of_le hlimit hends)

def bindTo (path : String) : Bind := ⟨path, .object [("$bind", .string path)]⟩

/-- One of two boxes for each entry, chosen by the entry. -/
def ledgerRow : Json :=
  .object [("$if", (bindTo "row").declaration), ("then", boxOf "row"), ("else", boxOf "rows")]

def ledgerRows : Json :=
  .object [("$each", (bindTo "rows").declaration), ("yield", .string "row"), ("do", ledgerRow)]

/-- The entries bound by a `let` and gone through by an `each`. -/
def ledger : Json :=
  .object [("$let", .object [("rows", (bindTo "entries").declaration)]), ("do", ledgerRows)]

def ledgerRowsTree : Invocation :=
  ⟨"each", ⟨0⟩, .map [
      ("$each", .bind (bindTo "rows")), ("yield", .scalar (.string "row")),
      ("do", .invocation .helper "if" ⟨2⟩ (.map [
        ("$if", .bind (bindTo "row")), ("then", (box "row").toNode .component),
        ("else", (box "rows").toNode .component)]) ledgerRow)],
    ledgerRows⟩

def ledgerTree : Invocation :=
  ⟨"let", ⟨4⟩, .map [
      ("$let", .map [("rows", .bind (bindTo "entries"))]),
      ("do", ledgerRowsTree.toNode .component)],
    ledger⟩

theorem keepsOut_ledger : Reference.KeepsOut ledgerTree := by
  intro used hm hname node hc nested hnested
  rw [Invocation.toList_elements] at hm
  have hcases : used = ledgerTree ∨ used = ledgerRowsTree ∨ used = box "row" ∨
      used = box "rows" := by
    simpa [ledgerTree, ledgerRowsTree, box, Invocation.toNode, Node.preorder] using hm
  rcases hcases with rfl | rfl | rfl | rfl
  · obtain rfl := Reference.eq_of_content "$let" rfl rfl rfl hc
    simp [Node.preorder] at hnested
  · obtain rfl := Reference.eq_of_content "$each" rfl rfl rfl hc
    simp [Node.preorder] at hnested
  · simp [box] at hname
  · simp [box] at hname

theorem ledger_within_depth : ∃ parsed,
    (Ui.mk Reference.plugins Reference.registry {} .silent none).parse ledger =
      (parsed, .ok ledgerTree) ∧
    (∀ stack, Render.Active Reference.plugins true
      (ledgerTree, .ofJson (.object [("entries", .array [.string "a", .null])])) stack →
        stack.length ≤ 3) ∧
    parsed.render 3 (.ofJson (.object [("entries", .array [.string "a", .null])])) ≠
      .error .tooDeep := by
  have hparse : ∃ parsed,
      (Ui.mk Reference.plugins Reference.registry {} .silent none).parse ledger =
        (parsed, .ok ledgerTree) := ⟨_, rfl⟩
  obtain ⟨parsed, hparse⟩ := hparse
  obtain ⟨hactive, outcome, hends, hrender⟩ := render_within_depth rfl rfl hparse keepsOut_ledger
    (Value.everyElement_ofJson _ (.object [("entries", .array [.string "a", .null])]))
  refine ⟨parsed, hparse, fun stack h => (hactive stack h).1, ?_⟩
  rw [hrender 3 (Nat.le_of_eq rfl)]
  exact hends

end Ui

end DeclaredUi
