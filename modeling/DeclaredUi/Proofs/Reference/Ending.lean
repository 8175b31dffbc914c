import DeclaredUi.Proofs.Reference.Ranked
import DeclaredUi.Proofs.Ui

/-! Rendering with the reference elements ends unless a component comes to be rendered
within its own rendering in an environment that is no smaller. Every component that is
rendered is one of the tree, since `each` and `let` store what they were given and binds
find what was stored. -/

namespace DeclaredUi

namespace Reference

/-- What a node comes to holds its own components and those of the environment. -/
theorem everyElement_of_resolves {node : Node} {env value : Value} {p : Invocation → Prop}
    (hused : ∀ role used, .invocation role used ∈ node.preorder → Registered role used)
    (henv : env.EveryElement p) (hp : ∀ used, .invocation .component used ∈ node.preorder → p used)
    (h : Render.Resolves plugins env node value) : value.EveryElement p := by
  have hsurface := node.surface_subset_preorder
  refine Render.everyElement_of_resolves h (fun reference _ => henv.evaluate reference)
    (fun helper hm config found hconfig hcall => ?_) fun used hm => hp used (hsurface hm)
  exact callHelper_everyElement (hused _ helper (hsurface hm)) hconfig hcall

/-- The component is one of the tree, and so are those in its environment. -/
structure Inside (tree : Node) (rendering : Render.Rendering) : Prop where
  component : .invocation .component rendering.1 ∈ tree.preorder
  env : rendering.2.EveryElement fun used => .invocation .component used ∈ tree.preorder

section

variable {tree : Node} {escape : Bool} {outer inner : Render.Rendering}
  (htree : ∀ role used, .invocation role used ∈ tree.preorder → Registered role used)

include htree

theorem inside_of_encloses (h : Inside tree outer)
    (he : Render.Encloses plugins escape outer inner) : Inside tree inner := by
  obtain ⟨config, hconfig, hr⟩ := he
  obtain ⟨value, hresolves, rfl⟩ := Render.prepareConfig_ok_iff.1 hconfig
  have hsub := Node.preorder_subset_of_mem h.component
  have hvalue : value.EveryElement fun used => .invocation .component used ∈ tree.preorder :=
    everyElement_of_resolves (fun role used hm => htree role used (hsub hm)) h.env
      (fun used hm => hsub hm) hresolves
  have hprepared : (Render.prepare escape value).EveryElement
      fun used => .invocation .component used ∈ tree.preorder :=
    Render.everyElement_prepare hvalue
  have hasked := asks_everyElement (htree _ _ h.component) hprepared h.env
  obtain ⟨hchild, hscope⟩ := hasked.of_requests hr
  exact ⟨hchild.of_element, hscope⟩

theorem inside_of_reached (h : Inside tree outer)
    (hr : Relation.ReflTransGen (Render.Encloses plugins escape) outer inner) :
    Inside tree inner := by
  induction hr with
  | refl => exact h
  | tail _ he ih => exact inside_of_encloses htree ih he

/-- A tree has finitely many components, so rendering ends if each of them shrinks. -/
theorem component_ends_of_shrinks {start : Render.Rendering} {measure : Value → Nat}
    (hinside : Inside tree start) (h : Render.Shrinks plugins escape measure start) :
    ∃ limit, Render.component plugins escape limit start.1 start.2 ≠ .error .tooDeep := by
  have hfinite : ∀ inner, Relation.ReflTransGen (Render.Encloses plugins escape) start inner →
      .invocation .component inner.1 ∈ tree.preorder :=
    fun inner hr => (inside_of_reached htree hinside hr).component
  exact Render.component_ends_iff.2 (Render.acc_of_shrinks hfinite h)

end

end Reference

namespace Ui

/-- Rendering returns, and with room enough the limit makes no difference. -/
def Ends (ui : Ui) (env : Value) : Prop :=
  ∃ outcome : Outcome Value, outcome ≠ .error .tooDeep ∧
    ∃ enough, ∀ limit, enough ≤ limit → ui.render limit env = outcome

/-- Rendering ends if each component that is rendered within its own rendering has a
smaller environment there. If names have ranks then there are no such components. -/
theorem render_ends {ui parsed : Ui} {declaration : Json} {root : Invocation}
    (hplugins : ui.plugins = Reference.plugins) (hregistry : ui.registry = Reference.registry)
    (hparse : ui.parse declaration = (parsed, .ok root)) (env : Json) (measure : Value → Nat) :
    (Render.Shrinks Reference.plugins ui.options.escapeHtml measure (root, .ofJson env) →
      parsed.Ends (.ofJson env)) ∧
    ∀ rank bound, Reference.Ranked rank bound root →
      Render.Shrinks Reference.plugins ui.options.escapeHtml measure (root, .ofJson env) := by
  obtain ⟨hroot, hsame, hrenderer⟩ := installed_of_parse hparse
  rw [hregistry] at hroot
  have htree := Reference.registered_of_parse hroot
  refine ⟨fun hshrinks => ?_, fun rank bound hranked => ?_⟩
  · obtain ⟨enough, hends⟩ := Reference.component_ends_of_shrinks htree
      ⟨List.mem_cons_self, Value.everyElement_ofJson _ env⟩ hshrinks
    refine ⟨_, Outcome.guarded_ne_tooDeep hends, enough, fun limit hlimit => ?_⟩
    unfold render Renderer.render
    rw [hrenderer, hsame, hplugins]
    exact congrArg Outcome.guarded (Render.component_eq_of_le hlimit hends)
  · exact Reference.shrinks_of_ranked htree hranked (Value.everyElement_ofJson _ env)

/-- The declaration of a box that shows what is stored under the name. -/
def boxOf (name : String) : Json :=
  .object [("$vbox", .array [.object [("$bind", .string name)]])]

def box (name : String) : Invocation :=
  ⟨"vbox", ⟨7⟩, .map [("$vbox", .sequence [.bind ⟨name, .object [("$bind", .string name)]⟩])],
    boxOf name⟩

/-- A card that shows a title, both of them stored, and the card shown once more as an
item. -/
def gallery : Json :=
  .object [("$let", .object [("card", boxOf "title"),
      ("title", .object [("$text", .object [("$bind", .string "name")])])]),
    ("do", .object [("$each", .array [.object [("$bind", .string "card")]]),
      ("yield", .string "entry"), ("do", boxOf "entry")])]

def galleryTitle : Invocation :=
  ⟨"text", ⟨6⟩, .map [("$text", .bind ⟨"name", .object [("$bind", .string "name")]⟩)],
    .object [("$text", .object [("$bind", .string "name")])]⟩

def galleryRows : Invocation :=
  ⟨"each", ⟨0⟩, .map [
      ("$each", .sequence [.bind ⟨"card", .object [("$bind", .string "card")]⟩]),
      ("yield", .scalar (.string "entry")), ("do", (box "entry").toNode .component)],
    .object [("$each", .array [.object [("$bind", .string "card")]]),
      ("yield", .string "entry"), ("do", boxOf "entry")]⟩

def galleryTree : Invocation :=
  ⟨"let", ⟨4⟩, .map [
      ("$let", .map [("card", (box "title").toNode .component),
        ("title", galleryTitle.toNode .component)]),
      ("do", galleryRows.toNode .component)], gallery⟩

/-- The card shows the title, and the entry is the card. -/
def galleryRank (name : String) : Nat := if name = "card" ∨ name = "entry" then 1 else 0

theorem rendersBelow_box {rank : String → Nat} {level : Nat} {name : String}
    (hsegments : Bind.segmentsOf name = [name]) (hrank : rank name < level) :
    Reference.RendersBelow rank level (box name) := by
  have hnode : ∀ node, Reference.Renders (box name) node →
      node = .sequence [.bind ⟨name, .object [("$bind", .string name)]⟩] := by
    intro node hr
    cases hr with
    | content _ hcontent =>
      have hkey : mark "vbox" = "$vbox" := rfl
      exact Reference.eq_of_content "$vbox" rfl hkey rfl hcontent
    | child hname => simp [box] at hname
  refine .intro (fun node hr reference hm other ho => ?_) fun node hr next hm => ?_
  · rw [hnode node hr] at hm
    obtain rfl : reference = ⟨name, .object [("$bind", .string name)]⟩ := by
      simpa [Node.surface] using hm
    have hother : name = other := by simpa [Bind.Reads, Bind.segments, hsegments] using ho
    exact hother ▸ hrank
  · rw [hnode node hr] at hm
    simp [Node.surface] at hm

theorem rendersBelow_galleryTitle {rank : String → Nat} {level : Nat} :
    Reference.RendersBelow rank level galleryTitle := by
  have hnone : ∀ node, ¬ Reference.Renders galleryTitle node := by
    intro node hr
    cases hr with
    | content hname => simp [galleryTitle] at hname
    | child hname => simp [galleryTitle] at hname
  exact .intro (fun node hr => absurd hr (hnone node)) fun node hr => absurd hr (hnone node)

theorem storable_toNode {rank : String → Nat} {level : Nat} {used : Invocation}
    (h : Reference.RendersBelow rank level used) :
    Reference.Storable rank level (used.toNode .component) where
  component other hm := by
    obtain rfl : other = used := by simpa [Invocation.toNode, Node.surface] using hm
    exact h
  handed reference hm := by simp [Invocation.toNode, Node.surface] at hm

theorem storable_of_galleryTree {name : String} {node : Node}
    (h : Reference.Stores galleryTree name node) :
    Reference.Storable galleryRank (galleryRank name) node := by
  have hcontent : ∀ node, Reference.Content galleryTree node →
      node = .map [("card", (box "title").toNode .component),
        ("title", galleryTitle.toNode .component)] :=
    fun node hc => Reference.eq_of_content "$let" rfl rfl rfl hc
  cases h with
  | item hname => simp [galleryTree] at hname
  | binding _ hc hbinding =>
    rw [Node.map.inj (hcontent _ hc)] at hbinding
    rcases List.mem_cons.1 hbinding with hcard | htitle
    · obtain ⟨rfl, rfl⟩ := Prod.mk.inj hcard
      exact storable_toNode (rendersBelow_box (by decide) (by decide))
    · obtain ⟨rfl, rfl⟩ := Prod.mk.inj (List.mem_singleton.1 htitle)
      exact storable_toNode rendersBelow_galleryTitle
  | computed _ hc hfields => exact absurd (hcontent _ hc) (hfields _)

theorem storable_of_galleryRows {name : String} {node : Node}
    (h : Reference.Stores galleryRows name node) :
    Reference.Storable galleryRank (galleryRank name) node := by
  cases h with
  | item _ hc hyield =>
    obtain rfl : node = .sequence [.bind ⟨"card", .object [("$bind", .string "card")]⟩] :=
      Reference.eq_of_content "$each" rfl rfl rfl hc
    obtain rfl : name = "entry" := by
      rcases hyield with rfl | rfl <;> decide
    refine ⟨fun used hm => ?_, fun reference hm other ho => ?_⟩
    · simp [Node.surface] at hm
    · obtain rfl : reference = ⟨"card", .object [("$bind", .string "card")]⟩ := by
        simpa [Node.surface] using hm
      have hsegments : Bind.segmentsOf "card" = ["card"] := by decide
      have hother : "card" = other := by simpa [Bind.Reads, Bind.segments, hsegments] using ho
      subst hother
      decide
  | binding hname => simp [galleryRows] at hname
  | computed hname => simp [galleryRows] at hname

theorem ranked_gallery : Reference.Ranked galleryRank 2 galleryTree where
  bounded name := by
    unfold galleryRank
    split <;> decide
  stored used hm name node hs := by
    rw [Invocation.toList_elements] at hm
    have hcases : used = galleryTree ∨ used = box "title" ∨ used = galleryTitle ∨
        used = galleryRows ∨ used = box "entry" := by
      simpa [galleryTree, galleryTitle, galleryRows, box, Invocation.toNode,
        Node.preorder] using hm
    rcases hcases with rfl | rfl | rfl | rfl | rfl
    · exact storable_of_galleryTree hs
    · simpa [box] using Reference.name_of_stores hs
    · simpa [galleryTitle] using Reference.name_of_stores hs
    · exact storable_of_galleryRows hs
    · simpa [box] using Reference.name_of_stores hs

/-- The gallery comes to an end in every environment. -/
theorem gallery_ends : ∃ parsed,
    (Ui.mk Reference.plugins Reference.registry {} .silent none).parse gallery =
      (parsed, .ok galleryTree) ∧
    Reference.Ranked galleryRank 2 galleryTree ∧ ∀ env, parsed.Ends (.ofJson env) := by
  have hparse : ∃ parsed,
      (Ui.mk Reference.plugins Reference.registry {} .silent none).parse gallery =
        (parsed, .ok galleryTree) := ⟨_, rfl⟩
  obtain ⟨parsed, hparse⟩ := hparse
  refine ⟨parsed, hparse, ranked_gallery, fun env => ?_⟩
  obtain ⟨hends, hshrinks⟩ := render_ends rfl rfl hparse env fun _ => 0
  exact hends (hshrinks galleryRank 2 ranked_gallery)

/-- A box that shows itself again, stored under the name that it reads. -/
def mirror : Json := .object [("$let", .object [("x", boxOf "x")]), ("do", boxOf "x")]

/-- In its own scope the box asks for itself, at every limit. -/
theorem component_box (limit : Nat) :
    Render.component Reference.plugins true limit (box "x") (.object [("x", .element (box "x"))]) =
      .error .tooDeep := by
  induction limit with
  | zero => rfl
  | succ limit ih => exact Render.component_tooDeep_of_child rfl rfl ih

/-- Not every rendering ends: a component that is stored under the name it reads asks for
itself for ever. -/
theorem render_mirror : ∃ parsed root,
    (Ui.mk Reference.plugins Reference.registry {} .silent none).parse mirror =
      (parsed, .ok root) ∧
    ∀ limit, parsed.render limit (.ofJson (.object [])) = .error .tooDeep := by
  refine ⟨_, _, rfl, fun limit => ?_⟩
  cases limit with
  | zero => rfl
  | succ limit =>
    exact congrArg Outcome.guarded
      (Render.component_tooDeep_of_child rfl rfl (component_box limit))

end Ui

end DeclaredUi
