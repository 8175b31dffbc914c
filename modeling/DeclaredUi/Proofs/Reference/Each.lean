import DeclaredUi.Fixture
import DeclaredUi.Proofs.Reference.Simulation
import DeclaredUi.Proofs.Render.Nested

/-! Renderings side by side. `each` carries one scope from item to item, and a name that is
bound again keeps its place in it, so every item is rendered in the scope that it would get
by itself: the environment of `each` with the item under the name. Nothing is handed from
one rendering to the next, and the texts stand one below the other. -/

namespace DeclaredUi

namespace Reference

/-- The texts of the items one below the other, each of them rendered by itself. -/
def repetition (render : Value → Outcome Value) : List Value → Outcome String
  | [] => .ok ""
  | item :: rest => do
    let rendered ← render item
    return Lines.terminated rendered.text ++ (← repetition render rest)

/-- The environment in which an item is rendered. -/
def itemEnv (name : String) (env item : Value) : Value :=
  .object (Fields.insert name item env.fieldsOrEmpty)

variable {render : Value → Outcome Value}

theorem repetition_append (items others : List Value) :
    repetition render (items ++ others) = do
      let texts ← repetition render items
      return texts ++ (← repetition render others) := by
  induction items with
  | nil =>
    rw [List.nil_append]
    cases repetition render others with
    | ok texts => exact congrArg Except.ok String.empty_append.symm
    | error stop => rfl
  | cons item rest ih =>
    simp only [List.cons_append, repetition, ih, bind_assoc, pure_bind, String.append_assoc]

/-- Where every item is rendered, the texts are put together. -/
theorem repetition_of_rendered {items rendered : List Value}
    (h : List.Forall₂ (fun item value => render item = .ok value) items rendered) :
    repetition render items =
      .ok (String.join (rendered.map fun value => Lines.terminated value.text)) := by
  induction h with
  | nil => rfl
  | cons hitem _ ih =>
    rw [repetition, hitem, ih, List.map_cons, String.join_cons]
    rfl

/-- The first item that cannot be rendered decides, and those after it do not matter. -/
theorem repetition_of_stop {before : List Value} {item : Value} {stop : Stop}
    (hbefore : ∀ earlier ∈ before, ∃ value, render earlier = .ok value)
    (hitem : render item = .error stop) (after : List Value) :
    repetition render (before ++ item :: after) = .error stop := by
  obtain ⟨rendered, hrendered⟩ := exists_forall₂_iff.2 hbefore
  rw [repetition_append, repetition_of_rendered hrendered, repetition, hitem]
  rfl

/-- The scope that is carried on is as good as a new one for every item. -/
theorem run_renderEach (element : String) (answer : Value → Value → Outcome Value)
    (child : Value) (name : String) (scope : List (String × Value)) (items : List Value) :
    (renderEach child name scope items).run element answer =
      repetition (fun item => answer child (itemEnv name (.object scope) item)) items := by
  induction items generalizing scope with
  | nil => rfl
  | cons item rest ih =>
    have hscope : ∀ next, itemEnv name (.object (Fields.insert name item scope)) next =
        itemEnv name (.object scope) next := fun next =>
      congrArg Value.object (Fields.insert_insert name item next scope)
    simp only [renderEach, Script.run_bind, Script.run_render, ih, hscope, repetition]
    rfl

variable {plugins : Plugins} {escape : Bool} {used : Invocation} {env child : Value}
  {items : List Value} {name : String}

/-- An `each` that finds in its prepared config the items, the name for them and the child. -/
structure Repeats (plugins : Plugins) (escape : Bool) (env : Value) (used : Invocation)
    (items : List Value) (name : String) (child : Value) : Prop where
  plugin : plugins used.plugin = .component each
  config : ∃ config, Render.prepareConfig plugins escape used.config env = .ok config ∧
    (config.firstTruthy ["items", "$each"]).intoItems = items ∧ yieldName config = name ∧
    config.getOrNull "do" = child

theorem Repeats.component_eq (h : Repeats plugins escape env used items name child)
    (limit : Nat) :
    Render.component plugins escape (limit + 1) used env =
      (repetition (fun item => Render.childOutcome plugins escape limit child
        (itemEnv name env item)) items).map .string := by
  obtain ⟨config, hconfig, rfl, rfl, rfl⟩ := h.config
  rw [Render.component_succ, hconfig]
  show Script.run _ _ ((plugins used.plugin).run config env true) = _
  rw [h.plugin]
  show Script.run _ _ (renderEach _ (yieldName config) env.fieldsOrEmpty _ >>= fun text =>
    .done (Value.string text)) = _
  rw [Script.run_bind, run_renderEach]
  rfl

/-- An `each` is the renderings of its child one below the other, every item in the
environment of the `each` with this item under the name and nothing else changed. What it
comes to for one list after another is what it comes to for the one and then for the other,
and where an item cannot be rendered the first of these decides. -/
theorem each_item_by_itself (h : Repeats plugins escape env used items name child)
    (limit : Nat) :
    let rendering := fun item =>
      Render.childOutcome plugins escape limit child (itemEnv name env item)
    (∀ rendered, List.Forall₂ (fun item value => rendering item = .ok value) items rendered →
      Render.component plugins escape (limit + 1) used env =
        .ok (.string (String.join (rendered.map fun value => Lines.terminated value.text)))) ∧
    (∀ before item after stop, items = before ++ item :: after →
      (∀ earlier ∈ before, ∃ value, rendering earlier = .ok value) →
      rendering item = .error stop →
      Render.component plugins escape (limit + 1) used env = .error stop) ∧
    ∀ front back first second, items = front ++ back →
      Repeats plugins escape env first front name child →
      Repeats plugins escape env second back name child →
      Render.component plugins escape (limit + 1) used env = do
        let upper ← Render.component plugins escape (limit + 1) first env
        let lower ← Render.component plugins escape (limit + 1) second env
        return .string (upper.text ++ lower.text) := by
  intro rendering
  refine ⟨?rendered, ?stopped, ?parts⟩
  case rendered =>
    intro rendered hrendered
    rw [h.component_eq, repetition_of_rendered hrendered]
    rfl
  case stopped =>
    intro before item after stop hitems hbefore hitem
    rw [h.component_eq, hitems, repetition_of_stop hbefore hitem]
    rfl
  case parts =>
    intro front back first second hitems hfirst hsecond
    rw [h.component_eq, hfirst.component_eq, hsecond.component_eq, hitems, repetition_append]
    cases repetition rendering front with
    | error stop => rfl
    | ok upper => cases repetition rendering back <;> rfl

/-- Two entries under a name that the environment has already. -/
def roll (child : Node) : Invocation where
  name := "each"
  plugin := ⟨0⟩
  config := .map [("$each", .scalar (.array [.string "a", .string "b"])),
    ("yield", .scalar (.string "row")), ("do", child)]
  declaration := .null

def rollEnv : Value := .object [("row", .null), ("last", .bool true)]

/-- Shows the environment that it is rendered in. -/
def surroundings : Invocation := ⟨"env", ⟨10⟩, .map [], .null⟩

/-- Fails with the entry as its message. -/
def refusal : Invocation := ⟨"fail", ⟨21⟩, .map [("message", .bind ⟨"row", .null⟩)], .null⟩

theorem repeats_roll (child : Invocation) :
    Repeats (.ofList (Fixture.everything.map Prod.snd)) true rollEnv
      (roll (child.toNode .component)) [.string "a", .string "b"] "row" (.element child) :=
  ⟨rfl, _, rfl, rfl, rfl, rfl⟩

theorem roll_item_by_itself :
    Render.component (.ofList (Fixture.everything.map Prod.snd)) true 2
        (roll (surroundings.toNode .component)) rollEnv =
      .ok (.string ("\x7b\"row\":\"a\",\"last\":true\x7d\n" ++
        "\x7b\"row\":\"b\",\"last\":true\x7d\n")) ∧
    Render.component (.ofList (Fixture.everything.map Prod.snd)) true 2
        (roll (refusal.toNode .component)) rollEnv =
      .error (.error (.rendering "fail" "a")) := by
  obtain ⟨hrendered, -, -⟩ := each_item_by_itself (repeats_roll surroundings) 1
  obtain ⟨-, hstopped, -⟩ := each_item_by_itself (repeats_roll refusal) 1
  constructor
  · exact hrendered [itemEnv "row" rollEnv (.string "a"), itemEnv "row" rollEnv (.string "b")]
      (.cons rfl (.cons rfl .nil))
  · exact hstopped [] (.string "a") [.string "b"] _ rfl (by simp) rfl

end Reference

end DeclaredUi
