import DeclaredUi.Proofs.Reference.Requests
import DeclaredUi.Proofs.Reference.Text
import DeclaredUi.Proofs.Render.Resolve

/-! Strings that are handed down. A `let` binds what its bindings come to and an `each`
what its items come to, and a component below reads the name again. Every config is
escaped when its component is rendered, so a string is escaped once by each component that
hands it on and once more by the text that shows it in the end. -/

namespace DeclaredUi

namespace Reference

/-- The scope that `each` makes for the item in a place. -/
def itemScope (config env : Value) (place : Nat) : Value :=
  .object (Fields.insert (yieldName config)
    (((config.firstTruthy ["items", "$each"]).intoItems[place]?).getD .null) env.fieldsOrEmpty)

/-- A chain of renderings that hand a value down. A `let` or `each` whose config comes to
the value in one of its bindings or items renders the next component, which takes for its
own part what a bind reads under the name. The last is a text whose content it is. -/
inductive HandedDown : Value → Nat → Render.Rendering → Render.Rendering → Prop
  | text {used : Invocation} {env config : Value} :
      plugins used.plugin = .component text → Render.Resolves plugins env used.config config →
      HandedDown (config.firstTruthy ["content", "$text"]) 0 (used, env) (used, env)
  | binding {used : Invocation} {env config value : Value} {name : String} {reference : Bind}
      {links : Nat} {inner last : Render.Rendering} :
      plugins used.plugin = .component scope → Render.Resolves plugins env used.config config →
      (config.firstTruthy ["bindings", "$let"]).get? name = some value →
      Render.Encloses plugins true (used, env) inner → reference.segments = [name] →
      HandedDown (reference.evaluate inner.2) links inner last →
      HandedDown value (links + 1) (used, env) last
  | item {used : Invocation} {env config value : Value} {place : Nat} {reference : Bind}
      {links : Nat} {inner last : Render.Rendering} :
      plugins used.plugin = .component each → Render.Resolves plugins env used.config config →
      (config.firstTruthy ["items", "$each"]).intoItems[place]? = some value →
      Render.Encloses plugins true (used, env) inner →
      inner.2 = itemScope (Render.prepare true config) env place →
      reference.segments = [yieldName (Render.prepare true config)] →
      HandedDown (reference.evaluate inner.2) links inner last →
      HandedDown value (links + 1) (used, env) last

variable {used : Invocation} {env config value : Value} {name : String} {reference : Bind}
  {place links : Nat} {inner top last : Render.Rendering}

theorem evaluate_name {fields : List (String × Value)} (h : reference.segments = [name]) :
    reference.evaluate (.object fields) = (fields.lookup name).getD .null := by
  rw [Bind.evaluate, h, Value.follow?_cons]
  show ((fields.lookup name).bind some).getD .null = _
  cases fields.lookup name <;> rfl

theorem lookup_fieldsOrEmpty (value : Value) (name : String) :
    value.fieldsOrEmpty.lookup name = value.get? name := by
  cases value <;> rfl

/-- A `let` binds its names to what the bindings come to, escaped. -/
theorem evaluate_of_binding (hplugin : plugins used.plugin = .component scope)
    (hconfig : Render.Resolves plugins env used.config config)
    (hvalue : (config.firstTruthy ["bindings", "$let"]).get? name = some value)
    (hinner : Render.Encloses plugins true (used, env) inner)
    (hname : reference.segments = [name]) : reference.evaluate inner.2 = value.escapeHtml := by
  obtain ⟨prepared, hprepared, hrequests⟩ := hinner
  obtain ⟨resolved, hresolved, rfl⟩ := Render.prepareConfig_ok_iff.1 hprepared
  obtain rfl : resolved = config := Except.ok.inj (hresolved.symm.trans hconfig)
  rw [hplugin] at hrequests
  obtain ⟨-, hscope⟩ := (scope_asks _ env).of_requests hrequests
  rw [hscope, evaluate_name hname, lookup_fieldsOrEmpty]
  show (((resolved.escapeHtml).firstTruthy ["bindings", "$let"]).get? name).getD .null = _
  rw [Value.firstTruthy_escapeHtml, Value.get?_escapeHtml, hvalue]
  rfl

/-- An `each` binds its name to what an item comes to, escaped. -/
theorem evaluate_of_item
    (hvalue : (config.firstTruthy ["items", "$each"]).intoItems[place]? = some value)
    (hname : reference.segments = [yieldName (Render.prepare true config)]) :
    reference.evaluate (itemScope (Render.prepare true config) env place) = value.escapeHtml := by
  unfold itemScope
  rw [evaluate_name hname, Fields.lookup_insert_self]
  show (((config.escapeHtml).firstTruthy ["items", "$each"]).intoItems[place]?).getD .null = _
  rw [Value.firstTruthy_escapeHtml, Value.intoItems_escapeHtml, List.getElem?_map, hvalue]
  rfl

/-! ## Along the chain -/

theorem HandedDown.reached (h : HandedDown value links top last) :
    Relation.ReflTransGen (Render.Encloses plugins true) top last := by
  induction h with
  | text _ _ => exact .refl
  | binding _ _ _ hinner _ _ ih => exact .head hinner ih
  | item _ _ _ hinner _ _ _ ih => exact .head hinner ih

/-- A text at the end of a chain shows the value escaped once by every link and once by
itself. -/
theorem HandedDown.component_eq (h : HandedDown value links top last) (limit : Nat) :
    Render.component plugins true (limit + 1) last.1 last.2 =
      .ok (Value.escapeHtml^[links + 1] value) := by
  -- what a link binds is the escaped value, which the next link hands down in turn
  induction h with
  | text hplugin hconfig =>
    rw [component_text hplugin (Render.prepareConfig_ok_iff.2 ⟨_, hconfig, rfl⟩)]
    exact congrArg Except.ok (Value.firstTruthy_escapeHtml _ _)
  | binding hplugin hconfig hvalue hinner hname _ ih =>
    rw [ih, evaluate_of_binding hplugin hconfig hvalue hinner hname]
    rfl
  | item _ _ hvalue _ hscope hname _ ih =>
    rw [ih, hscope, evaluate_of_item hvalue hname]
    rfl

theorem iterate_escapeHtml_string (times : Nat) (text : String) :
    Value.escapeHtml^[times] (.string text) = .string (Html.escape^[times] text) := by
  induction times generalizing text with
  | zero => rfl
  | succ times ih => exact ih (Html.escape text)

/-- A string is escaped once more by every `let` and `each` that hands it down. However long
the chain is, its last text is rendered, and what it shows is the string escaped once only
if there is no link at all or nothing in the string to escape. -/
theorem text_of_handedDown {text : String} (h : HandedDown (.string text) links top last)
    (limit : Nat) :
    Relation.ReflTransGen (Render.Encloses plugins true) top last ∧
      Render.component plugins true (limit + 1) last.1 last.2 =
        .ok (.string (Html.escape^[links + 1] text)) ∧
      (Html.escape^[links + 1] text = Html.escape text ↔
        links = 0 ∨ Html.escape text = text) := by
  refine ⟨h.reached, ?_, Html.iterate_escape_eq_iff links text⟩
  rw [h.component_eq limit, iterate_escapeHtml_string]

/-- The tree of a text that is bound by an `each`. -/
def eachRoot : Invocation where
  name := "each"
  plugin := ⟨0⟩
  config := .map [("$each", .bind ⟨"x", .object [("$bind", .string "x")]⟩),
    ("yield", .scalar (.string "y")), ("do", (boundTextRoot "y").toNode .component)]
  declaration := .object [("$each", .object [("$bind", .string "x")]), ("yield", .string "y"),
    ("do", boundText "y")]

/-- A `let` that hands a component the string it finds under `s`. -/
def relay (child : Invocation) : Invocation where
  name := "let"
  plugin := ⟨4⟩
  config := .map [("$let", .map [("x", .bind ⟨"s", .object [("$bind", .string "s")]⟩)]),
    ("do", child.toNode .component)]
  declaration := .object [("$let", .object [("x", .object [("$bind", .string "s")])]),
    ("do", child.declaration)]

/-- Handed down by a `let` and an `each`, a string is escaped three times. -/
theorem relay_escapes_thrice :
    (Declaration.parse registry (relay eachRoot).declaration).result = .ok (relay eachRoot) ∧
      ∃ last, Relation.ReflTransGen (Render.Encloses plugins true)
          (relay eachRoot, .object [("s", .string "<")]) last ∧
        Render.component plugins true 1 last.1 last.2 = .ok (.string "&amp;amp;lt;") := by
  let last : Render.Rendering :=
    (boundTextRoot "y", .object [("x", .string "&lt;"), ("y", .string "&amp;lt;")])
  have htext : HandedDown (.string "&amp;lt;") 0 last last :=
    @HandedDown.text last.1 last.2 (.object [("$text", .string "&amp;lt;")]) rfl rfl
  have heach : HandedDown (.string "&lt;") 1 (eachRoot, .object [("x", .string "&lt;")]) last :=
    @HandedDown.item eachRoot (.object [("x", .string "&lt;")]) _ _ 0 ⟨"y", .null⟩ 0 last last
      rfl rfl rfl ⟨_, rfl, .now⟩ rfl (by decide) htext
  have hlet : HandedDown (.string "<") 2 (relay eachRoot, .object [("s", .string "<")]) last :=
    @HandedDown.binding (relay eachRoot) (.object [("s", .string "<")]) _ _ "x" ⟨"x", .null⟩ 1
      (eachRoot, .object [("x", .string "&lt;")]) last
      rfl rfl rfl ⟨_, rfl, .now⟩ (by decide) heach
  obtain ⟨hreached, hshown, -⟩ := text_of_handedDown hlet 0
  exact ⟨rfl, last, hreached, hshown⟩

end Reference

/-- A string that a `let` hands to a text is shown escaped twice. -/
theorem Ui.let_escapes_twice :
    (((Ui.mk Reference.plugins Reference.registry ⟨true⟩ .silent none).parse
      (Reference.relay (Reference.boundTextRoot "x")).declaration).1.render 2
        (.ofJson (.object [("s", .string "<")]))) = .ok (.string "&amp;lt;") ∧
      Html.escape "<" = "&lt;" := by
  constructor
  · rfl
  · rfl

end DeclaredUi
