import DeclaredUi.Proofs.Reference.Simulation
import DeclaredUi.Ui.Basic

/-! The listed bind paths are all that a rendering reads. Environments in which
every listed path leads to the same value stay so in the scope of an item and in
a set of bindings, whatever elements travel through them; hence they render to the
same outcome, at every limit of nesting. -/

namespace DeclaredUi

/-- Two objects in which the listed paths lead to related values. -/
structure AgreeOn (paths : List String) (V : Value → Value → Prop) (env env' : Value) : Prop where
  object : env = .object env.fieldsOrEmpty
  object' : env' = .object env'.fieldsOrEmpty
  evaluate : ∀ reference : Bind, reference.path ∈ paths →
    V (reference.evaluate env) (reference.evaluate env')

namespace AgreeOn

variable {paths : List String} {S : String → String → Prop} {I : Invocation → Invocation → Prop}

/-- A path that starts with the new name goes on below the new value, any other
path goes where it went before. -/
theorem follow?_insert (name segment : String) (rest : List String) (value : Value)
    (fields : List (String × Value)) :
    (Value.object (Fields.insert name value fields)).follow? (segment :: rest) =
      if segment = name then value.follow? rest
      else (Value.object fields).follow? (segment :: rest) := by
  rw [Value.follow?_cons, Value.follow?_cons]
  simp only [Value.child?]
  split
  · subst segment
    rw [Fields.lookup_insert_self]
    rfl
  · rename_i h
    rw [Fields.lookup_insert_of_ne h]

/-- Agreement outlives both ways of making a scope. The empty path reads the whole
environment, so where it is listed the environments are alike as a whole. -/
theorem scoping : Reference.Scoping (Value.Alike S I) (AgreeOn paths (Value.Alike S I)) where
  insert := by
    intro env env' v w name he hvw
    refine ⟨rfl, rfl, fun reference hr => ?_⟩
    have hbefore := he.evaluate reference hr
    rw [he.object, he.object'] at hbefore
    unfold Bind.evaluate at hbefore ⊢
    cases hs : reference.segments with
    | nil =>
      rw [hs] at hbefore
      obtain _ | _ | _ | _ | _ | hf := (show Value.Alike S I (.object env.fieldsOrEmpty)
        (.object env'.fieldsOrEmpty) from hbefore)
      exact .object (hf.insert name hvw)
    | cons segment rest =>
      rw [hs] at hbefore
      rw [follow?_insert, follow?_insert]
      split
      · exact Value.Alike.getD (hvw.follow? rest)
      · exact hbefore
  bindings h := ⟨rfl, rfl, fun reference _ => (Value.Alike.object h).evaluate reference⟩

end AgreeOn

namespace Reference

/-- Every element of the component runs one of the reference plug-ins. -/
def Runs (plugins : Plugins) (root : Invocation) : Prop :=
  ∀ role used, .invocation role used ∈ root.elements.toList →
    plugins used.plugin ∈ table.map Prod.snd

/-- Elements that run reference plug-ins and read only the listed paths. -/
def Reads (plugins : Plugins) (paths : List String) : Element → Prop
  | .bind reference => reference.path ∈ paths
  | .invocation _ used => plugins used.plugin ∈ table.map Prod.snd

theorem reads_of_runs {plugins : Plugins} {root : Invocation} (h : Runs plugins root) :
    Invocation.Same (Reads plugins (root.elements.toList.filterMap Element.bindPath?).eraseDups)
      root root := by
  refine ⟨rfl, fun element hm => ?_⟩
  rw [← Invocation.toList_elements] at hm
  cases element with
  | bind reference => exact List.mem_eraseDups.2 (List.mem_filterMap.2 ⟨_, hm, rfl⟩)
  | invocation role used => exact h role used hm

/-- Equal values that hold only such elements. -/
abbrev Equal (plugins : Plugins) (paths : List String) : Value → Value → Prop :=
  Value.Alike (· = ·) (Invocation.Same (Reads plugins paths))

variable {plugins : Plugins} {paths : List String} {env env' v w : Value}

theorem eq_of_equal (h : Equal plugins paths v w) : v = w := Value.Alike.eq (fun _ _ h => h.1) h

/-- A config that reads only the listed paths resolves to one value where they lead
to the same. -/
theorem resolve_of_reads {node : Node}
    (hn : ∀ element ∈ node.preorder, Reads plugins paths element)
    (he : ∀ reference : Bind, reference.path ∈ paths →
      Equal plugins paths (reference.evaluate env) (reference.evaluate env')) :
    Outcome.Related (Equal plugins paths) (Render.resolve plugins env node)
      (Render.resolve plugins env' node) :=
  Render.resolve_same hn (fun _ => rfl) he fun used hu _ _ hvw =>
    callHelper_related .eq (fun _ _ h => congrArg Invocation.text h.1) used.name
      (admits_of_alike hu hvw) hvw env env'

theorem component_of_agreeOn (escape : Bool) {root : Invocation}
    (hroot : Invocation.Same (Reads plugins paths) root root)
    (he : AgreeOn paths (Equal plugins paths) env env') (limit : Nat) :
    Render.component plugins escape limit root env =
      Render.component plugins escape limit root env' := by
  have step : ∀ a b env env', Invocation.Same (Reads plugins paths) a b →
      AgreeOn paths (Equal plugins paths) env env' →
      Outcome.Related (fun config config' => a.name = b.name ∧
          Script.Related (Equal plugins paths) (AgreeOn paths (Equal plugins paths))
            (Equal plugins paths) ((plugins a.plugin).run config env true)
            ((plugins b.plugin).run config' env' true))
        (Render.prepareConfig plugins escape a.config env)
        (Render.prepareConfig plugins escape b.config env') := by
    rintro a b env env' ⟨rfl, hp⟩ he
    have hconfig := resolve_of_reads (fun element hm => hp element (List.mem_cons_of_mem _ hm))
      he.evaluate
    refine hconfig.map fun v w hvw => ⟨rfl, ?_⟩
    have hprepared : Equal plugins paths (Render.prepare escape v) (Render.prepare escape w) := by
      cases escape with
      | true => exact hvw.escapeHtml fun a b h => congrArg Html.escape h
      | false => exact hvw
    exact run_related .eq (fun _ _ h => congrArg Invocation.text h.1) AgreeOn.scoping he
      (admits_of_alike (hp _ List.mem_cons_self) hprepared) hprepared true
  have h := Render.component_related step limit root root env env' hroot he
  exact (h.imp fun _ _ => eq_of_equal).eq

end Reference

/-- The listed bind paths miss nothing that a rendering can read: two documents in
which each of them leads to the same value render to the same outcome. The limit
is arbitrary, so one rendering comes to an end exactly when the other does. -/
theorem Ui.render_eq_of_eq_on_bindPaths {ui : Ui} {root : Invocation} {paths : List String}
    {first second : List (String × Json)} (hroot : ui.root? = some root)
    (hruns : Reference.Runs ui.plugins root) (hpaths : ui.uniqueBindPaths = .ok paths)
    (hagree : ∀ path ∈ paths, (Bind.mk path .null).evaluate (.ofJson (.object first)) =
      (Bind.mk path .null).evaluate (.ofJson (.object second))) (limit : Nat) :
    ui.render limit (.ofJson (.object first)) = ui.render limit (.ofJson (.object second)) := by
  obtain ⟨plugins, registry, options, sink, renderer⟩ := ui
  cases renderer with
  | none => cases hroot
  | some renderer =>
    obtain ⟨tree, escape⟩ := renderer
    obtain rfl : tree = root := Option.some.inj hroot
    have hsame := Reference.reads_of_runs hruns
    rw [Except.ok.inj (show Except.ok _ = Except.ok paths from hpaths)] at hsame
    have he : AgreeOn paths (Reference.Equal plugins paths) (.ofJson (.object first))
        (.ofJson (.object second)) := by
      refine ⟨by simp only [Value.ofJson, Value.fieldsOrEmpty],
        by simp only [Value.ofJson, Value.fieldsOrEmpty], fun reference hr => ?_⟩
      have heq : reference.evaluate (.ofJson (.object first)) =
          reference.evaluate (.ofJson (.object second)) := hagree reference.path hr
      rw [heq]
      exact (Value.Alike.ofJson (fun _ => rfl) (.object second)).evaluate reference
    have h := Reference.component_of_agreeOn escape hsame he limit
    exact congrArg Outcome.guarded h

/-- A list whose entries are bound once more before their titles are read. -/
def catalogue : Ui where
  plugins := Reference.plugins
  registry := Reference.registry
  renderer := some { root := ⟨"each", ⟨0⟩, .map
    [("$each", .bind ⟨"entries", .null⟩), ("yield", .scalar (.string "entry")),
     ("do", .invocation .component "let" ⟨4⟩ (.map
       [("$let", .map [("line", .bind ⟨"entry.title", .null⟩)]),
        ("do", .invocation .component "text" ⟨6⟩ (.map [("$text", .bind ⟨"line", .null⟩)]) .null)])
       .null)], .null⟩ }

theorem catalogue_ignores_reader :
    catalogue.uniqueBindPaths = .ok ["entries", "entry.title", "line"] ∧
    catalogue.render 9
        (.ofJson (.object [("reader", .string "Ada"),
          ("entries", .array [.object [("title", .string "A & B")]])])) =
      catalogue.render 9
        (.ofJson (.object [("entries", .array [.object [("title", .string "A & B")]]),
          ("reader", .string "Bob"), ("admin", .bool true)])) := by
  have hpaths : catalogue.uniqueBindPaths = .ok ["entries", "entry.title", "line"] := by
    simp only [catalogue, Ui.uniqueBindPaths, Ui.queryRoot, Invocation.toList_elements,
      Invocation.toNode, Node.preorder]
    rfl
  refine ⟨hpaths, Ui.render_eq_of_eq_on_bindPaths rfl ?runs hpaths ?agree 9⟩
  case runs =>
    intro role used hm
    simp [Invocation.toList_elements, Invocation.toNode, Node.preorder] at hm
    rcases hm with ⟨-, rfl⟩ | ⟨-, rfl⟩ | ⟨-, rfl⟩ <;>
      simp [catalogue, Reference.plugins, Plugins.ofList, Reference.table]
  case agree =>
    intro path hm
    simp only [List.mem_cons, List.not_mem_nil, or_false] at hm
    rcases hm with rfl | rfl | rfl <;> rfl

end DeclaredUi
