import DeclaredUi.Proofs.Declaration.Grammar
import DeclaredUi.Proofs.Html
import DeclaredUi.Proofs.Render.BindPaths
import DeclaredUi.Proofs.Render.Resolve
import DeclaredUi.Proofs.Ui
import DeclaredUi.Proofs.Value.Escape

/-! The strings of an environment cannot open or close a tag. Environments of one
shape stay so in every scope, whatever their strings are, and what a component is
given of them is escaped; so only the texts of the components themselves carry
angle brackets. The name under which `each` binds its items is the one string that
decides about anything but text, hence it must not come from the environment. -/

namespace DeclaredUi

namespace Reference

theorem angles_sentence (text : String) : Html.angles (sentence text) = Html.angles text := by
  unfold sentence
  split
  · rfl
  · rw [Html.angles_append]
    exact List.append_nil _

theorem angles_indented (text : String) :
    Html.angles (String.join ((indented text).map Lines.terminated)) = Html.angles text := by
  have hline : ∀ line : List Char,
      Html.angles (Lines.terminated ("  " ++ String.ofList line)) =
        line.filter Html.isAngle := by
    intro line
    have hindent : Html.angles "  " = [] := rfl
    rw [Html.angles_terminated, Html.angles_append, hindent, List.nil_append, Html.angles_ofList]
  rw [Html.angles_join, indented, Lines.ofText, List.map_map, List.map_map, List.flatMap_map]
  simp only [Function.comp_apply, hline]
  rw [List.flatMap_def, ← List.filter_flatten, Lines.flatten_split]
  rfl

/-- Texts with the same angle brackets. -/
theorem Layout.angles : Layout fun a b => Html.angles a = Html.angles b where
  refl _ := rfl
  append h h' := by rw [Html.angles_append, Html.angles_append, h, h']
  quote h := by rw [Html.angles_quote, Html.angles_quote, h]
  sentence h := by rw [angles_sentence, angles_sentence, h]
  terminated h := by rw [Html.angles_terminated, Html.angles_terminated, h]
  indented h := by rw [angles_indented, angles_indented, h]

/-- The name under which an `each` binds its items is fixed by the tree. -/
def FixedYield (used : Invocation) : Prop :=
  ∀ fields node, used.config = .map fields → fields.lookup "yield" = some node →
    ∀ reference, .bind reference ∉ node.elements.toList

/-- Elements of the reference plug-ins, every `each` among them with a fixed name. -/
def Settled : Element → Prop
  | .bind _ => True
  | .invocation role used =>
    (role = .component ∧ plugins used.plugin = .component each ∧
        (∃ fields, used.config = .map fields) ∧ FixedYield used) ∨
      plugins used.plugin ∈ (table.map Prod.snd).tail

theorem mem_table_of_settled {role : Role} {used : Invocation}
    (h : Settled (.invocation role used)) : plugins used.plugin ∈ table.map Prod.snd := by
  rcases h with ⟨-, h, -⟩ | h
  · rw [h]
    exact List.mem_cons_self
  · exact List.mem_cons_of_mem _ h

/-- What a declaration names in the reference registry is such an element. -/
theorem settled_of_declaredBy {role : Role} {used : Invocation}
    (h : Declaration.DeclaredBy registry role used)
    (hy : used.name = "each" → FixedYield used) : Settled (.invocation role used) := by
  obtain ⟨_, nodes, -, hconfig, -, hnames⟩ := h
  have hentry : ⟨used.name, used.plugin, role⟩ ∈ registry.entries := by
    cases hnames with
    | shorthand _ _ _ hg => exact (Registry.get?_eq_some hg).1
    | explicit _ _ hg => exact (Registry.get?_eq_some hg).1
  simp only [registry, List.mem_cons, List.not_mem_nil, or_false, Registry.Entry.mk.injEq]
    at hentry
  rcases hentry with ⟨hname, hplugin, hrole⟩ | hentry
  · exact .inl ⟨hrole, by rw [hplugin]; rfl, ⟨nodes, hconfig⟩, hy hname⟩
  · right
    rcases hentry with ⟨-, h, -⟩ | ⟨-, h, -⟩ | ⟨-, h, -⟩ | ⟨-, h, -⟩ | ⟨-, h, -⟩ | ⟨-, h, -⟩ |
      ⟨-, h, -⟩
    all_goals
      rw [h]
      simp [plugins, Plugins.ofList, table]

/-- Values of one shape, their strings related by `S`, with the same settled
components. -/
abbrev Shaped (S : String → String → Prop) : Value → Value → Prop :=
  Value.Alike S (Invocation.Same Settled)

/-- The same node comes to the same value everywhere if there is nothing to look up. -/
theorem resolves_unique {node : Node} (hfixed : ∀ reference, .bind reference ∉ node.preorder)
    (hsettled : ∀ element ∈ node.preorder, Settled element) {env env' v w : Value}
    (hv : Render.Resolves plugins env node v) (hw : Render.Resolves plugins env' node w) :
    v = w := by
  have hreads : ∀ element ∈ node.preorder, Reads plugins [] element := by
    intro element hm
    cases element with
    | bind reference => exact absurd hm (hfixed reference)
    | invocation role used => exact mem_table_of_settled (hsettled _ hm)
  have h : Outcome.Related (Equal plugins []) (Render.resolve plugins env node)
      (Render.resolve plugins env' node) := resolve_of_reads hreads fun _ hr => by cases hr
  rw [hv, hw] at h
  obtain hvw | _ := h
  exact eq_of_equal hvw

/-- A fixed name is the same in every environment. -/
theorem get?_yield_eq {used : Invocation} {fields : List (String × Node)}
    (hconfig : used.config = .map fields) (hfixed : FixedYield used)
    (hsettled : ∀ element ∈ used.config.preorder, Settled element) {env env' v w : Value}
    (hv : Render.Resolves plugins env used.config v)
    (hw : Render.Resolves plugins env' used.config w) :
    v.get? "yield" = w.get? "yield" := by
  rw [hconfig] at hsettled hv hw
  have hyv := Render.get?_of_resolves hv "yield"
  have hyw := Render.get?_of_resolves hw "yield"
  generalize v.get? "yield" = a, w.get? "yield" = b at hyv hyw
  cases hl : fields.lookup "yield" with
  | none =>
    rw [hl] at hyv hyw
    cases hyv
    cases hyw
    rfl
  | some node =>
    have hnode := hfixed fields node hconfig hl
    rw [Node.toList_elements] at hnode
    have below := Node.preorder_subset_map (Fields.mem_of_lookup hl)
    rw [hl] at hyv hyw
    obtain hva | _ := hyv
    obtain hwb | _ := hyw
    exact congrArg some (resolves_unique hnode (fun _ hm => hsettled _ (below hm)) hva hwb)

/-! ## Two renderings -/

/-- A relation of environments of one shape holds again in the scopes. -/
theorem scoping_of_shaped {S : String → String → Prop} :
    Scoping (Shaped S) (Shaped fun _ _ => True) where
  insert name he hvw :=
    .object (he.fieldsOrEmpty.insert name (hvw.imp (fun _ _ _ => trivial) fun _ _ h => h))
  bindings h := .object (h.imp fun _ _ hvw => hvw.imp (fun _ _ _ => trivial) fun _ _ h => h)

theorem resolve_of_shaped {node : Node} {env env' : Value}
    (hn : ∀ element ∈ node.preorder, Settled element) (he : Shaped (fun _ _ => True) env env') :
    Outcome.Related (Shaped fun _ _ => True) (Render.resolve plugins env node)
      (Render.resolve plugins env' node) := by
  refine Render.resolve_same hn (fun _ => trivial) (fun reference _ => he.evaluate reference)
    fun used hu v w hvw => ?_
  -- no helper is an `each`, so nothing has to be known of its name
  rcases hu with ⟨hrole, -⟩ | htail
  · cases hrole
  · exact callHelper_related .trivial (fun _ _ _ => trivial) used.name (.inr htail) hvw env env'

/-- A settled component runs alike on what it is given in two environments of one
shape. -/
theorem prepareConfig_of_shaped {a : Invocation} {env env' : Value}
    (ha : ∀ element ∈ (a.toNode .component).preorder, Settled element)
    (he : Shaped (fun _ _ => True) env env') :
    Outcome.Related
      (fun config config' => Script.Related (Shaped fun a b => Html.angles a = Html.angles b)
        (Shaped fun _ _ => True) (Shaped fun a b => Html.angles a = Html.angles b)
        ((plugins a.plugin).run config env true) ((plugins a.plugin).run config' env' true))
      (Render.prepareConfig plugins true a.config env)
      (Render.prepareConfig plugins true a.config env') := by
  have hbelow : ∀ element ∈ a.config.preorder, Settled element :=
    fun element hm => ha element (List.mem_cons_of_mem _ hm)
  refine (resolve_of_shaped hbelow he).attach.map fun v w ⟨hvw, hv, hw⟩ => ?_
  -- from here on the strings of both are escaped and have no angle brackets at all
  have hprepared : Shaped (fun a b => Html.angles a = Html.angles b) v.escapeHtml w.escapeHtml :=
    hvw.escapeHtml fun a b _ => by rw [Html.angles_escape, Html.angles_escape]
  refine run_related .angles (fun _ _ h => by rw [h.1]) scoping_of_shaped he ?_ hprepared true
  rcases ha _ List.mem_cons_self with ⟨-, heach, ⟨fields, hconfig⟩, hfixed⟩ | htail
  · have hyield := get?_yield_eq hconfig hfixed hbelow hv hw
    refine .inl ⟨heach, ?_⟩
    rw [yieldName, yieldName, Value.get?_escapeHtml, Value.get?_escapeHtml, hyield]
  · exact .inr htail

theorem component_of_shaped {root : Invocation} {env env' : Value}
    (hroot : ∀ element ∈ (root.toNode .component).preorder, Settled element)
    (he : Shaped (fun _ _ => True) env env') (limit : Nat) :
    Outcome.Related (Shaped fun a b => Html.angles a = Html.angles b)
      (Render.component plugins true limit root env)
      (Render.component plugins true limit root env') :=
  Render.component_related
    (fun a _ _ _ ⟨hab, ha⟩ he => by
      subst hab
      exact (prepareConfig_of_shaped ha he).imp fun _ _ h => ⟨rfl, h⟩)
    limit root root env env' ⟨rfl, hroot⟩ he

end Reference

namespace Ui

/-- The elements of a parsed tree are settled, if the names of its items are fixed. -/
theorem settled_of_parse {declaration : Json} {root : Invocation}
    (hroot : (Declaration.parse Reference.registry declaration).result = .ok root)
    (hyield : ∀ role used, .invocation role used ∈ root.elements.toList → used.name = "each" →
      Reference.FixedYield used) :
    ∀ element ∈ (root.toNode .component).preorder, Reference.Settled element := by
  rw [← Invocation.toList_elements]
  intro element hm
  cases element with
  | bind reference => trivial
  | invocation role used =>
    exact Reference.settled_of_declaredBy (Declaration.declaredBy_of_parse hroot hm)
      (hyield role used hm)

/-- No string of an environment can open or close a tag: two documents that differ
in their strings alone render, if at all, to texts with the same angle brackets. -/
theorem angles_of_render {ui parsed : Ui} {declaration : Json} {root : Invocation}
    (hplugins : ui.plugins = Reference.plugins) (hregistry : ui.registry = Reference.registry)
    (hescape : ui.options.escapeHtml = true) (hparse : ui.parse declaration = (parsed, .ok root))
    (hyield : ∀ role used, .invocation role used ∈ root.elements.toList → used.name = "each" →
      Reference.FixedYield used)
    {first second : Json}
    (hshape : Value.Alike (fun _ _ => True) (fun _ _ => False) (.ofJson first) (.ofJson second))
    (limit : Nat) :
    Outcome.Related (fun a b => Html.angles a.text = Html.angles b.text)
      (parsed.render limit (.ofJson first)) (parsed.render limit (.ofJson second)) := by
  obtain ⟨hroot, hsame, hrenderer⟩ := installed_of_parse hparse
  rw [hregistry] at hroot
  have henv : Reference.Shaped (fun _ _ => True) (.ofJson first) (.ofJson second) :=
    hshape.imp (fun _ _ h => h) fun _ _ h => h.elim
  have h := Reference.component_of_shaped (settled_of_parse hroot hyield) henv limit
  unfold render Renderer.render
  rw [hrenderer, hsame, hplugins, hescape]
  exact (h.imp fun _ _ hvw =>
    hvw.text Reference.Layout.angles.toFormatting fun _ _ h => by rw [h.1]).guarded

/-- Rows under each other, each as it is. -/
def rows : Json :=
  .object [("$each", .object [("$bind", .string "rows")]), ("yield", .string "row"),
    ("do", .object [("$text", .object [("$bind", .string "row")])])]

/-- The tree of the rows. -/
def rowsTree : Invocation :=
  ⟨"each", ⟨0⟩, .map
    [("$each", .bind ⟨"rows", .object [("$bind", .string "rows")]⟩),
     ("yield", .scalar (.string "row")),
     ("do", .invocation .component "text" ⟨6⟩
       (.map [("$text", .bind ⟨"row", .object [("$bind", .string "row")]⟩)])
       (.object [("$text", .object [("$bind", .string "row")])]))], rows⟩

theorem angles_of_rows :
    Outcome.Related (fun a b => Html.angles a.text = Html.angles b.text)
      (((Ui.mk Reference.plugins Reference.registry {} .silent none).parse rows).1.render 9
        (.ofJson (.object [("rows", .array [.string "Ada"])])))
      (((Ui.mk Reference.plugins Reference.registry {} .silent none).parse rows).1.render 9
        (.ofJson (.object [("rows", .array [.string "<script>"])]))) := by
  have hparse : (Ui.mk Reference.plugins Reference.registry {} .silent none).parse rows =
      (((Ui.mk Reference.plugins Reference.registry {} .silent none).parse rows).1,
        .ok rowsTree) := rfl
  refine angles_of_render rfl rfl rfl hparse ?fixed ?shape 9
  case fixed =>
    intro role used hm hname fields node hconfig hl
    simp [rowsTree, Invocation.toList_elements, Invocation.toNode, Node.preorder] at hm
    rcases hm with ⟨-, rfl⟩ | ⟨-, rfl⟩
    · obtain rfl := Node.map.inj hconfig
      obtain rfl := Option.some.inj hl
      simp [Node.toList_elements, Node.preorder]
    · exact absurd hname (by decide)
  case shape => exact .object (.cons (.array (.cons (.string trivial) .nil)) .nil)

end Ui

end DeclaredUi
