import DeclaredUi.Proofs.Reference.Elements
import DeclaredUi.Proofs.Render.BindPaths
import DeclaredUi.Proofs.Render.Unfailing
import DeclaredUi.Proofs.Ui

/-! The reference plug-ins do not fail. What they miss in a config, and what is there in
another form than they expect, they take for nothing, one item or a text, and all that they
hand on was in their config or their environment. So a tree of reference elements renders
to a value in every environment in which its rendering ends. -/

namespace DeclaredUi

namespace Reference

section

variable {p : Invocation → Prop} {config env child : Value}

theorem renderTexts_succeeds (henv : env.EveryElement p) {children : List Value}
    (h : ∀ child ∈ children, child.EveryElement p) :
    (renderTexts env children).Succeeds p fun _ => True := by
  induction children with
  | nil => exact .done trivial
  | cons child rest ih =>
    have hrest := ih fun other hm => h other (List.mem_cons_of_mem _ hm)
    exact (Script.Succeeds.render (h child List.mem_cons_self) henv).bind fun _ _ =>
      hrest.bind fun _ _ => .done trivial

theorem paragraph_succeeds (hconfig : config.EveryElement p) (henv : env.EveryElement p) :
    (paragraph config env).Succeeds p (Value.EveryElement p) :=
  (renderTexts_succeeds henv fun _ hm => (hconfig.firstTruthy _).mem_intoItems hm).bind
    fun _ _ => .done (.string _)

theorem vbox_succeeds (hconfig : config.EveryElement p) (henv : env.EveryElement p) :
    (vbox config env).Succeeds p (Value.EveryElement p) :=
  (renderTexts_succeeds henv fun _ hm => (hconfig.firstTruthy _).mem_intoItems hm).bind
    fun _ _ => .done (.string _)

theorem renderEach_succeeds (hchild : child.EveryElement p) (name : String) {items : List Value}
    (hitems : ∀ item ∈ items, item.EveryElement p) {scope : List (String × Value)}
    (hscope : ∀ field ∈ scope, field.2.EveryElement p) :
    (renderEach child name scope items).Succeeds p fun _ => True := by
  -- the scope of an item is that of the item before with one more field
  induction items generalizing scope with
  | nil => exact .done trivial
  | cons item rest ih =>
    have hinserted : ∀ field ∈ Fields.insert name item scope, field.2.EveryElement p := by
      intro field hm
      rcases Fields.mem_insert hm with rfl | hm
      · exact hitems item List.mem_cons_self
      · exact hscope field hm
    have hrest := ih (fun other hm => hitems other (List.mem_cons_of_mem _ hm)) hinserted
    exact (Script.Succeeds.render hchild (.object hinserted)).bind fun _ _ =>
      hrest.bind fun _ _ => .done trivial

theorem each_succeeds (hconfig : config.EveryElement p) (henv : env.EveryElement p) :
    (each config env).Succeeds p (Value.EveryElement p) :=
  (renderEach_succeeds (hconfig.getOrNull "do") _
    (fun _ hm => (hconfig.firstTruthy _).mem_intoItems hm) fun _ hm => henv.fieldsOrEmpty hm).bind
      fun _ _ => .done (.string _)

theorem scope_succeeds (hconfig : config.EveryElement p) (env : Value) :
    (scope config env).Succeeds p (Value.EveryElement p) :=
  .render (hconfig.getOrNull "do") (.object fun _ hm => (hconfig.firstTruthy _).fieldsOrEmpty hm)

/-- Every reference plug-in succeeds on every config, in either role. -/
theorem run_succeeds {plugin : Plugin} (hplugin : plugin ∈ table.map Prod.snd)
    (hconfig : config.EveryElement p) (henv : env.EveryElement p) (children : Bool) :
    (plugin.run config env children).Succeeds p (Value.EveryElement p) := by
  simp only [table, List.map_cons, List.map_nil, List.mem_cons, List.not_mem_nil,
    or_false] at hplugin
  rcases hplugin with rfl | rfl | rfl | rfl | rfl | rfl | rfl | rfl
  · exact each_succeeds hconfig henv
  · exact .done (.string _)
  · exact .done (hconfig.getOrNull _)
  · exact .done (.string _)
  · exact scope_succeeds hconfig env
  · exact paragraph_succeeds hconfig henv
  · exact .done (hconfig.firstTruthy _)
  · exact vbox_succeeds hconfig henv

end

/-- The elements in the config of an element run what its elements run. -/
theorem Runs.config {plugins : Plugins} {used inner : Invocation} (h : Runs plugins used)
    {role : Role} (hm : .invocation role inner ∈ used.config.preorder) : Runs plugins inner := by
  have hbelow : ∀ role other, .invocation role other ∈ used.config.preorder →
      plugins other.plugin ∈ table.map Prod.snd := by
    intro role other hother
    refine h role other ?_
    rw [Invocation.toList_elements]
    exact List.mem_cons_of_mem _ hother
  intro role other hother
  rw [Invocation.toList_elements] at hother
  rcases List.mem_cons.1 hother with hroot | hother
  · obtain ⟨-, rfl⟩ := Element.invocation.inj hroot
    exact hbelow _ _ hm
  · exact hbelow _ _ (Node.preorder_subset_of_mem hm hother)

theorem reliable_runs (plugins : Plugins) : plugins.Reliable (Runs plugins) where
  run used hused config env children hconfig henv := by
    have hplugin : plugins used.plugin ∈ table.map Prod.snd := by
      refine hused .component used ?_
      rw [Invocation.toList_elements]
      exact List.mem_cons_self
    exact run_succeeds hplugin hconfig henv children
  config used hused role inner hm := hused.config (used.config.surface_subset_preorder hm)

/-- What is parsed with the reference registry runs reference plug-ins. -/
theorem runs_of_parse {declaration : Json} {root : Invocation}
    (h : (Declaration.parse registry declaration).result = .ok root) : Runs plugins root := by
  intro role used hm
  rw [Invocation.toList_elements] at hm
  exact plugin_mem_table (registered_of_parse h role used hm).entry

end Reference

namespace Ui

/-- The reference elements never fail: whatever their configs and the environment hold, no
call of a plug-in ends with an error or a panic, and the rendering comes to a value unless
it reaches the limit of nesting. -/
theorem render_never_fails {ui : Ui} {renderer : Renderer}
    (hrenderer : ui.renderer = some renderer)
    (hruns : Reference.Runs ui.plugins renderer.root) (env : Json) (limit : Nat) :
    let trace := renderer.trace ui.plugins limit (.ofJson env)
    trace.outcome = ui.render limit (.ofJson env) ∧
    (∀ call failure, .failed call failure ∉ trace.events) ∧
    (ui.render limit (.ofJson env) ≠ .error .tooDeep →
      ∃ value, ui.render limit (.ofJson env) = .ok value) := by
  intro trace
  have hunfailing : trace.Unfailing (Value.EveryElement (Reference.Runs ui.plugins)) :=
    Trace.unfailing_component (Reference.reliable_runs ui.plugins) renderer.escapeHtml limit hruns
      (Value.everyElement_ofJson _ env)
  have hrender : trace.outcome.guarded = ui.render limit (.ofJson env) := by
    show (Trace.component _ _ _ _ _).outcome.guarded = _
    rw [Trace.outcome_component, Ui.render, hrenderer]
    rfl
  have houtcome : trace.outcome = ui.render limit (.ofJson env) := by
    rw [← hrender]
    rcases hunfailing.outcome with ho | ⟨value, ho, -⟩
    · rw [ho]
      rfl
    · rw [ho]
      rfl
  refine ⟨houtcome, hunfailing.events, fun hends => ?_⟩
  rw [← houtcome] at hends ⊢
  rcases hunfailing.outcome with ho | ⟨value, ho, -⟩
  · exact absurd ho hends
  · exact ⟨value, ho⟩

/-- Elements with something else in their configs than they expect: one item for a list, a
number for a name, a text for bindings, and nothing at all. -/
def oddities : Json :=
  .object [("$vbox", .array [
    .object [("$each", .string "a"), ("yield", .number (.integer 7)),
      ("do", .object [("$text", .object [("$bind", .string "b..c")])])],
    .object [("$let", .string "none")],
    .object [("$image", .null), ("alt", .object [("$paragraph", .bool false)])],
    .object [("$join", .object [("$if", .null), ("else", .object [("$bind", .string "rows.-1")])]),
      ("separator", .array [])]])]

theorem oddities_rendered :
    let ui := Ui.mk Reference.plugins Reference.registry ⟨true⟩ .silent none
    let env : Json := .array [.bool true]
    ∃ parsed renderer, ui.parse oddities = (parsed, .ok renderer.root) ∧
      parsed.renderer = some renderer ∧ Reference.Runs parsed.plugins renderer.root ∧
      (∀ call failure, .failed call failure ∉
        (renderer.trace parsed.plugins 3 (.ofJson env)).events) ∧
      parsed.render 3 (.ofJson env) ≠ .error .tooDeep ∧
      ∃ value, parsed.render 3 (.ofJson env) = .ok value := by
  intro ui env
  obtain ⟨root, hroot⟩ : ∃ root, (Declaration.parse ui.registry oddities).result = .ok root :=
    ⟨_, rfl⟩
  obtain ⟨parsed, hparse⟩ := parse_of_result hroot
  obtain ⟨-, hplugins, hrenderer⟩ := installed_of_parse hparse
  have hruns : Reference.Runs parsed.plugins root := by
    rw [hplugins]
    exact Reference.runs_of_parse hroot
  have hends : parsed.render 3 (.ofJson env) ≠ .error .tooDeep := by
    have hparsed : (ui.parse oddities).1 = parsed := by rw [hparse]
    rw [← hparsed]
    intro h
    cases h
  obtain ⟨-, hevents, hvalue⟩ := render_never_fails hrenderer hruns env 3
  exact ⟨parsed, _, hparse, hrenderer, hruns, hevents, hends, hvalue hends⟩

end Ui

end DeclaredUi
