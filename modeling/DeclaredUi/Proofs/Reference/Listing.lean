import DeclaredUi.Proofs.Reference.Each
import DeclaredUi.Proofs.Reference.Handed
import DeclaredUi.Proofs.Value.Path

/-! Items and the name they are bound under. `each` finds the name in its config, so with
escaping on it is the escaped name under which the items are bound, and the paths in the
declaration still ask for the name itself. A listing of numbers by such a path shows them if
escaping leaves the name alone; if not, it shows in each line what the environment has under
the name. -/

namespace DeclaredUi

namespace Reference

open Declaration

/-- Numbers, each shown by the name that it is bound under. -/
def listing (numbers : List Number) (name : String) : Json :=
  .object [("$each", .array (numbers.map .number)), ("yield", .string name),
    ("do", boundText name)]

def listingRoot (numbers : List Number) (name : String) : Invocation where
  name := "each"
  plugin := ⟨0⟩
  config := .map [("$each", .sequence (numbers.map fun number => .scalar (.number number))),
    ("yield", .scalar (.string name)), ("do", (boundTextRoot name).toNode .component)]
  declaration := listing numbers name

theorem parse_listing (numbers : List Number) (name : String) :
    (parse registry (listing numbers name)).result = .ok (listingRoot numbers name) := by
  have hitems : (parseNode registry (.array (numbers.map .number))).result =
      .ok (.sequence (numbers.map fun number => .scalar (.number number))) := by
    refine parseNode_array_ok_iff.2 ⟨_, rfl, ?_⟩
    refine List.forall₂_map_left_iff.2 (List.forall₂_map_right_iff.2 (List.forall₂_same.2 ?_))
    exact fun number _ => rfl
  obtain ⟨_, -, hchild⟩ := parse_ok_iff.1 (parse_boundText name)
  let fields : List (String × Json) :=
    [("$each", .array (numbers.map .number)), ("yield", .string name), ("do", boundText name)]
  have hunreserved : ∀ key ∈ reservedKeys, key ∉ Fields.keys fields := by
    show ∀ key ∈ reservedKeys, key ∉ ["$each", "yield", "do"]
    decide
  have hentry : shorthandEntries registry (Fields.keys fields) =
      [⟨"each", ⟨0⟩, .component⟩] := by
    show shorthandEntries registry ["$each", "yield", "do"] = _
    rfl
  exact parse_ok_iff.2 ⟨fields, rfl, parseNode_of_shorthand hunreserved hentry
    (.cons ⟨rfl, hitems⟩ (.cons ⟨rfl, rfl⟩ (.cons ⟨rfl, hchild⟩ .nil)))⟩

/-! ## The lines -/

/-- The name under which the items are bound. -/
def boundName (escape : Bool) (name : String) : String :=
  if escape then Html.escape name else name

theorem repeats_listing (escape : Bool) (env : Value) (numbers : List Number) (name : String) :
    Repeats plugins escape env (listingRoot numbers name) (numbers.map .number)
      (boundName escape name) (.element (boundTextRoot name)) := by
  let config : Value := .object [("$each", .array (numbers.map .number)), ("yield", .string name),
    ("do", .element (boundTextRoot name))]
  have hitems : Render.Resolves plugins env
      (.sequence (numbers.map fun number => .scalar (.number number)))
      (.array (numbers.map .number)) := by
    refine Render.resolves_sequence_iff.2 ⟨_, rfl, ?_⟩
    refine List.forall₂_map_left_iff.2 (List.forall₂_map_right_iff.2 (List.forall₂_same.2 ?_))
    exact fun number _ => rfl
  have hconfig : Render.Resolves plugins env (listingRoot numbers name).config config :=
    Render.resolves_map_iff.2 ⟨_, rfl, .cons hitems (.cons rfl (.cons rfl .nil))⟩
  refine ⟨rfl, _, Render.prepareConfig_ok_iff.2 ⟨config, hconfig, rfl⟩, ?items, ?name, ?child⟩
  case items =>
    have hprepared : ∀ number, Render.prepare escape (.number number) = .number number := by
      intro number
      cases escape <;> rfl
    rw [Render.firstTruthy_prepare, Render.intoItems_prepare]
    show (numbers.map Value.number).map (Render.prepare escape) = _
    rw [List.map_map]
    exact List.map_congr_left fun number _ => hprepared number
  case name => cases escape <;> rfl
  case child => cases escape <;> rfl

/-- What a text shows of a value: nothing of `null` and `false`. -/
def shown (found : Value) : Value := if found.truthy then found else .null

theorem firstTruthy_text (found : Value) :
    (Value.object [("$text", found)]).firstTruthy ["content", "$text"] = shown found := by
  cases found with
  | bool value => cases value <;> rfl
  | _ => rfl

theorem component_boundText_prepared (escape : Bool) (path : String) (env : Value) (limit : Nat) :
    Render.component plugins escape (limit + 1) (boundTextRoot path) env =
      .ok (Render.prepare escape (shown (Bind.evaluate ⟨path, .null⟩ env))) := by
  have hconfig : Render.Resolves plugins env (boundTextRoot path).config
      (.object [("$text", Bind.evaluate ⟨path, .null⟩ env)]) := rfl
  rw [component_text rfl (Render.prepareConfig_ok_iff.2 ⟨_, hconfig, rfl⟩),
    Render.firstTruthy_prepare, firstTruthy_text]

/-- A line shows the item if it is bound under the name, and else what the environment has
under the name. -/
theorem evaluate_itemEnv {name : String} (hne : name ≠ "") (hdot : '.' ∉ name.toList)
    (bound : String) (env item : Value) :
    Bind.evaluate ⟨name, .null⟩ (itemEnv bound env item) =
      if bound = name then item else env.getOrNull name := by
  have hsegments : (Bind.mk name .null).segments = [name] := Bind.segmentsOf_eq_singleton hne hdot
  rw [itemEnv, evaluate_name hsegments]
  split
  · rename_i hbound
    rw [hbound, Fields.lookup_insert_self]
    rfl
  · rename_i hbound
    rw [Fields.lookup_insert_of_ne (Ne.symm hbound), lookup_fieldsOrEmpty]
    rfl

/-- The text that stands in the lines. -/
def lines (texts : List String) : Value := .string (String.join (texts.map Lines.terminated))

theorem component_listing (escape : Bool) {name : String} (hne : name ≠ "")
    (hdot : '.' ∉ name.toList) (numbers : List Number) (env : Value) (limit : Nat) :
    Render.component plugins escape (limit + 2) (listingRoot numbers name) env =
      .ok (lines (numbers.map fun number => (Render.prepare escape (shown
        (if boundName escape name = name then .number number else env.getOrNull name))).text)) := by
  have hrendered : ∀ item, Render.childOutcome plugins escape (limit + 1)
      (.element (boundTextRoot name)) (itemEnv (boundName escape name) env item) =
      .ok (Render.prepare escape (shown
        (if boundName escape name = name then item else env.getOrNull name))) := by
    intro item
    rw [← evaluate_itemEnv hne hdot]
    exact component_boundText_prepared escape name _ limit
  have hrepeats := repeats_listing escape env numbers name
  rw [hrepeats.component_eq, repetition_of_rendered (List.forall₂_map_right_iff.2
    (List.forall₂_same.2 fun item _ => hrendered item)), lines]
  simp only [List.map_map, Function.comp_def]
  rfl

/-- No line of numbers has a letter `x`. -/
theorem not_mem_lines (numbers : List Number) :
    'x' ∉ (lines (numbers.map Number.text)).text.toList := by
  have hnumeric : ∀ number : Number, 'x' ∉ number.text.toList := by
    intro number hx
    exact absurd (List.all_eq_true.1 number.numeric_text 'x' hx) (by decide)
  have hline : ∀ number : Number, 'x' ∉ (Lines.terminated number.text).toList := by
    intro number
    unfold Lines.terminated
    split
    · exact hnumeric number
    · rw [String.toList_append, List.mem_append, not_or]
      exact ⟨hnumeric number, by decide⟩
  show 'x' ∉ (String.join ((numbers.map Number.text).map Lines.terminated)).toList
  induction numbers with
  | nil => decide
  | cons number rest ih =>
    rw [List.map_cons, List.map_cons, String.join_cons, String.toList_append, List.mem_append,
      not_or]
    exact ⟨hline number, ih⟩

/-- Lines of a letter are not lines of numbers. -/
theorem lines_letter_ne {numbers : List Number} (h : numbers ≠ []) :
    lines (numbers.map fun _ => "x") ≠ lines (numbers.map Number.text) := by
  intro hsame
  apply not_mem_lines numbers
  rw [← hsame]
  obtain ⟨number, rest, rfl⟩ := List.exists_cons_of_ne_nil h
  show 'x' ∈ (String.join (Lines.terminated "x" :: _)).toList
  rw [String.join_cons, String.toList_append]
  exact List.mem_append_left _ (by decide)

end Reference

namespace Ui

theorem render_listing_lines (sink : Sink) (escape : Bool) {name : String} (hne : name ≠ "")
    (hdot : '.' ∉ name.toList) (numbers : List Number) (limit : Nat) (env : Value) :
    ((Ui.mk Reference.plugins Reference.registry ⟨escape⟩ sink none).parse
      (Reference.listing numbers name)).1.render (limit + 2) env =
        .ok (Reference.lines (numbers.map fun number => (Render.prepare escape (Reference.shown
          (if Reference.boundName escape name = name then .number number
            else env.getOrNull name))).text)) := by
  let ui := Ui.mk Reference.plugins Reference.registry ⟨escape⟩ sink none
  have hroot : (Declaration.parse ui.registry (Reference.listing numbers name)).result =
      .ok (Reference.listingRoot numbers name) := Reference.parse_listing numbers name
  show (ui.parse (Reference.listing numbers name)).1.render (limit + 2) env = _
  rw [render_parse hroot]
  exact congrArg Outcome.guarded (Reference.component_listing escape hne hdot numbers env limit)

/-- Without escaping a listing shows its numbers, one in a line, in every environment. With
escaping it does so, too, if escaping leaves the name alone; if not, every line shows what the
environment has under the name. So escaping makes no difference exactly for names with
nothing to escape, and where there is nothing to list. -/
theorem render_listing (sink : Sink) {name : String} (hne : name ≠ "") (hdot : '.' ∉ name.toList)
    (numbers : List Number) (limit : Nat) :
    let render := fun escape env =>
      ((Ui.mk Reference.plugins Reference.registry ⟨escape⟩ sink none).parse
        (Reference.listing numbers name)).1.render (limit + 2) env
    let listed := Reference.lines (numbers.map Number.text)
    (∀ env, render false env = .ok listed) ∧
    (Html.escape name = name → ∀ env, render true env = .ok listed) ∧
    (Html.escape name ≠ name → ∀ env, render true env = .ok (Reference.lines
      (numbers.map fun _ => (Reference.shown (env.getOrNull name)).escapeHtml.text))) ∧
    ((∀ env, render true env = render false env) ↔ numbers = [] ∨ Html.escape name = name) := by
  intro render listed
  have hrender := fun escape env =>
    render_listing_lines sink escape hne hdot numbers limit env
  have hnumber : ∀ escape number, (Render.prepare escape (Reference.shown (.number number))).text =
      number.text := by
    intro escape number
    cases escape <;> rfl
  have hlisted : ∀ escape env, Reference.boundName escape name = name →
      render escape env = .ok listed := by
    intro escape env hname
    refine (hrender escape env).trans ?_
    simp only [if_pos hname, hnumber]
    rfl
  have hfound : Html.escape name ≠ name → ∀ env, render true env = .ok (Reference.lines
      (numbers.map fun _ => (Reference.shown (env.getOrNull name)).escapeHtml.text)) := by
    intro hname env
    refine (hrender true env).trans ?_
    simp only [Reference.boundName, if_true, if_neg hname]
    rfl
  refine ⟨fun env => hlisted false env rfl, fun hname env => hlisted true env hname, hfound, ?_⟩
  constructor
  · intro hsame
    by_contra hother
    obtain ⟨hnumbers, hname⟩ := not_or.1 hother
    -- an environment that has a letter under the name shows that letter in every line
    have hletter : (Value.object [(name, .string "x")]).getOrNull name = .string "x" := by
      simp [Value.getOrNull, Value.get?]
    have hshown := hsame (.object [(name, .string "x")])
    rw [hfound hname, hlisted false _ rfl, hletter] at hshown
    exact Reference.lines_letter_ne hnumbers (Except.ok.inj hshown)
  · intro hsame env
    rw [hlisted false env rfl]
    rcases hsame with rfl | hname
    · exact hrender true env
    · exact hlisted true env hname

/-- A listing by the name `R&D` in an environment that has the name, too. -/
theorem listing_by_entity :
    let ui := Ui.mk Reference.plugins Reference.registry ⟨true⟩ .silent none
    "R&D" ≠ "" ∧ '.' ∉ "R&D".toList ∧ Html.escape "R&D" ≠ "R&D" ∧
      (ui.parse (Reference.listing [.integer 1, .integer 2] "R&D")).1.render 2
        (.ofJson (.object [("R&D", .string "<none>")])) =
          .ok (.string "&lt;none&gt;\n&lt;none&gt;\n") := by
  intro ui
  have hdot : '.' ∉ "R&D".toList := by decide
  have hname : Html.escape "R&D" ≠ "R&D" := by decide
  obtain ⟨-, -, hfound, -⟩ :=
    render_listing .silent (by decide) hdot [.integer 1, .integer 2] 0
  exact ⟨by decide, hdot, hname, hfound hname _⟩

/-- The items are not bound under the name itself, so they are not shown. -/
theorem listing_loses_items :
    let render := fun escape =>
      ((Ui.mk Reference.plugins Reference.registry ⟨escape⟩ .silent none).parse
        (Reference.listing [.integer 1] "a&b")).1.render 2 (.ofJson (.object []))
    render true = .ok (.string "\n") ∧ render false = .ok (.string "1\n") := by
  intro render
  constructor
  · rfl
  · rfl

end Ui

end DeclaredUi
