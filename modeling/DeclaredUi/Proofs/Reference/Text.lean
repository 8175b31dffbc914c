import DeclaredUi.Proofs.Declaration.Grammar
import DeclaredUi.Proofs.Render.Nested
import DeclaredUi.Proofs.Ui
import DeclaredUi.Proofs.Value.Keys
import DeclaredUi.Reference.Registry

/-! Text that is looked up in the environment. It shows the value at the end of its path,
escaped. The value may be a whole document, and then markup that its strings hold is shown
as text, but its keys are shown as they are. -/

namespace DeclaredUi

namespace Reference

open Declaration

/-- A text shows its content. -/
theorem component_text {used : Invocation} {env config : Value} {escape : Bool}
    (hplugin : plugins used.plugin = .component text)
    (hconfig : Render.prepareConfig plugins escape used.config env = .ok config) (limit : Nat) :
    Render.component plugins escape (limit + 1) used env =
      .ok (config.firstTruthy ["content", "$text"]) := by
  rw [Render.component_succ, hconfig]
  show Script.run _ _ ((plugins used.plugin).run config env true) = _
  rw [hplugin]
  rfl

/-- A text that shows what the path leads to. -/
def boundText (path : String) : Json :=
  .object [("$text", .object [("$bind", .string path)])]

def boundTextRoot (path : String) : Invocation where
  name := "text"
  plugin := ⟨6⟩
  config := .map [("$text", .bind ⟨path, .object [("$bind", .string path)]⟩)]
  declaration := boundText path

theorem parse_boundText (path : String) :
    (parse registry (boundText path)).result = .ok (boundTextRoot path) := by
  have hbind : (parseNode registry (.object [("$bind", .string path)])).result =
      .ok (.bind ⟨path, .object [("$bind", .string path)]⟩) := by
    refine parseNode_object_ok_iff.2 (.inr (.inl ⟨?_, path, rfl, rfl⟩))
    rw [candidates_of_unnamed (by simp [componentKey]) (by simp [helperKey])]
    rfl
  let fields : List (String × Json) := [("$text", .object [("$bind", .string path)])]
  have hunreserved : ∀ key ∈ reservedKeys, key ∉ Fields.keys fields := by
    show ∀ key ∈ reservedKeys, key ∉ ["$text"]
    decide
  have hentry : shorthandEntries registry (Fields.keys fields) =
      [⟨"text", ⟨6⟩, .component⟩] := by
    show shorthandEntries registry ["$text"] = _
    rfl
  exact parse_ok_iff.2 ⟨fields, rfl,
    parseNode_of_shorthand hunreserved hentry (.cons ⟨rfl, hbind⟩ .nil)⟩

/-- What is shown of the value: nothing of `null` and `false`, else its escaped form. -/
theorem component_boundText (path : String) (env : Value) (limit : Nat) :
    Render.component plugins true (limit + 1) (boundTextRoot path) env =
      .ok ((Value.object [("$text", (Bind.evaluate ⟨path, .null⟩ env).escapeHtml)]).firstTruthy
        ["content", "$text"]) :=
  component_text rfl rfl limit

/-- Nothing is written of a document that is not shown. -/
theorem angles_shown (found : Json) :
    Html.angles ((Value.object [("$text", (Value.ofJson found).escapeHtml)]).firstTruthy
      ["content", "$text"]).text = found.keys.flatMap Html.angles := by
  rw [← Value.angles_text_escapeHtml]
  cases found with
  | bool value => cases value <;> rfl
  | _ => rfl

end Reference

namespace Ui

/-- The angle brackets in a text that is looked up are those of the keys of all maps in the
value it finds, so it is free of them exactly if these keys are. -/
theorem angles_of_boundText (sink : Sink) (path : String) (env : Json) (limit : Nat) :
    let ui := Ui.mk Reference.plugins Reference.registry ⟨true⟩ sink none
    ∃ found shown, Bind.evaluate ⟨path, .null⟩ (.ofJson env) = .ofJson found ∧
      (ui.parse (Reference.boundText path)).1.render (limit + 1) (.ofJson env) = .ok shown ∧
      Html.angles shown.text = found.keys.flatMap Html.angles ∧
      (Html.angles shown.text = [] ↔ ∀ key ∈ found.keys, Html.angles key = []) := by
  intro ui
  obtain ⟨found, hfound⟩ := Value.evaluate_ofJson ⟨path, .null⟩ env
  have hroot : (Declaration.parse ui.registry (Reference.boundText path)).result =
      .ok (Reference.boundTextRoot path) := Reference.parse_boundText path
  obtain ⟨parsed, hparse⟩ := parse_of_result hroot
  obtain ⟨-, hplugins, hrenderer⟩ := installed_of_parse hparse
  have hangles := Reference.angles_shown found
  refine ⟨found, _, hfound, ?_, hangles, ?_⟩
  · unfold render Renderer.render
    rw [hparse, hrenderer, hplugins, ← hfound]
    exact congrArg Outcome.guarded (Reference.component_boundText path _ limit)
  · rw [hangles, List.flatMap_eq_nil_iff]

/-- Markup in a key is shown as markup. -/
theorem boundText_shows_key :
    let ui := Ui.mk Reference.plugins Reference.registry ⟨true⟩ .silent none
    let env : Json := .object [("m", .object [("<b>", .number (.integer 1))])]
    ∃ shown, (ui.parse (Reference.boundText "m")).1.render 1 (.ofJson env) = .ok shown ∧
      shown.text = "\x7b\"<b>\":1\x7d" ∧ '<' ∈ shown.text.toList := by
  refine ⟨_, rfl, ?_, ?_⟩
  · decide
  · decide

end Ui

end DeclaredUi
