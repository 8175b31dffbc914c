import DeclaredUi.Proofs.Reference.Simulation
import DeclaredUi.Proofs.Render.Resolve
import DeclaredUi.Proofs.Value.Textual

/-! Escaping at either end of a reference helper. `choose` reads its config by key and by
truth value, which escaping leaves alone, and hands a value on. `join` writes the leaves of
its items one after the other, and escaping a row of texts is escaping each of them. So a
helper that is rendered on an escaped config comes to the value that an enclosing component
is given for it, which is escaped after the helper has run. -/

namespace DeclaredUi

namespace Reference

theorem choose_escapeHtml (config : Value) :
    choose config.escapeHtml = (choose config).escapeHtml := by
  have hcondition : condition config.escapeHtml = condition config := by
    unfold condition
    rw [Value.get?_escapeHtml, Value.getOrNull_escapeHtml, Value.truthy_escapeHtml]
    cases config.get? "condition" with
    | none => rfl
    | some found => exact Value.truthy_escapeHtml found
  rw [choose_eq, choose_eq, hcondition, Value.getOrNull_escapeHtml]

theorem leaves_escapeHtml (value : Value) :
    leaves value.escapeHtml = (leaves value).map Value.escapeHtml := by
  induction value using Value.byParts with
  | array items ih =>
    simp only [Value.escapeHtml, Value.escapeItems_eq_map, leaves, leavesOf_eq_flatMap,
      List.flatMap_map, List.map_flatMap]
    exact List.flatMap_congr ih
  | object fields _ =>
    simp only [Value.escapeHtml, leaves]
    rfl
  | _ => rfl

theorem textual_leaves {value : Value} (h : value.Textual) :
    ∀ leaf ∈ leaves value, leaf.Textual := by
  induction h with
  | @array items _ ih =>
    intro leaf hm
    rw [leaves, leavesOf_eq_flatMap] at hm
    obtain ⟨item, hitem, hleaf⟩ := List.mem_flatMap.1 hm
    exact ih item hitem leaf hleaf
  | _ =>
    intro leaf hm
    rw [List.mem_singleton.1 hm]
    constructor

/-- What `join` reads as its items and as its separator. -/
structure JoinsTexts (config : Value) : Prop where
  items : (config.firstTruthy ["items", "$join"]).Textual
  separator : (config.firstTruthy ["separator"]).Textual

theorem join_eq (config : Value) :
    join config = .string ((config.firstTruthy ["separator"]).text.intercalate
      ((((config.firstTruthy ["items", "$join"]).intoItems).flatMap leaves).map Value.text)) := by
  have hseparator : ((config.firstTruthy? ["separator"]).map Value.text).getD "" =
      (config.firstTruthy ["separator"]).text := by
    unfold Value.firstTruthy
    cases config.firstTruthy? ["separator"] <;> rfl
  rw [join, hseparator, leavesOf_eq_flatMap]

theorem join_escapeHtml {config : Value} (h : JoinsTexts config) :
    join config.escapeHtml = (join config).escapeHtml := by
  have hleaves : ∀ item ∈ (config.firstTruthy ["items", "$join"]).intoItems,
      (leaves item.escapeHtml).map Value.text =
        (leaves item).map fun leaf => Html.escape leaf.text := by
    intro item hm
    rw [leaves_escapeHtml, List.map_map]
    exact List.map_congr_left fun leaf hleaf =>
      (textual_leaves (h.items.mem_intoItems hm) leaf hleaf).text_escapeHtml
  rw [join_eq, join_eq, Value.firstTruthy_escapeHtml, Value.firstTruthy_escapeHtml,
    h.separator.text_escapeHtml, Value.intoItems_escapeHtml, Value.escapeHtml,
    Html.escape_intercalate, List.flatMap_map, List.map_flatMap, List.map_flatMap,
    List.map_flatMap, List.flatMap_congr hleaves]
  simp only [List.map_map, Function.comp_def]

/-! ## Helpers in a tree -/

/-- The plug-in is the helper that computes this. -/
def Computes (plugins : Plugins) (plugin : PluginId) (compute : Value → Value) : Prop :=
  plugins plugin = .helper fun config _ => .ok (compute config)

/-- A node of binds, plain data and the reference helpers, nested in any way. -/
inductive Computed (plugins : Plugins) : Node → Prop
  | bind (reference : Bind) : Computed plugins (.bind reference)
  | helper {name : String} {plugin : PluginId} {config : Node} {declaration : Json} :
      Computes plugins plugin choose ∨ Computes plugins plugin join → Computed plugins config →
      Computed plugins (.invocation .helper name plugin config declaration)
  | map {fields : List (String × Node)} : (∀ pair ∈ fields, Computed plugins pair.2) →
      Computed plugins (.map fields)
  | sequence {items : List Node} : (∀ item ∈ items, Computed plugins item) →
      Computed plugins (.sequence items)
  | scalar (value : Json) : Computed plugins (.scalar value)

variable {plugins : Plugins}

theorem callHelper_of_computes {plugin : PluginId} {compute : Value → Value}
    (h : Computes plugins plugin compute) (name : String) (config env : Value) :
    Render.callHelper plugins name plugin config env = .ok (compute config) := by
  rw [Render.callHelper, h]
  rfl

/-- Such a node always comes to a value. -/
theorem Computed.resolves {node : Node} (h : Computed plugins node) (env : Value) :
    ∃ value, Render.Resolves plugins env node value := by
  induction h with
  | bind reference => exact ⟨_, rfl⟩
  | @helper name plugin config declaration hcomputes _ ih =>
    obtain ⟨resolved, hresolved⟩ := ih
    obtain ⟨compute, hcompute⟩ : ∃ compute, Computes plugins plugin compute := by
      rcases hcomputes with hchoose | hjoin
      · exact ⟨choose, hchoose⟩
      · exact ⟨join, hjoin⟩
    exact ⟨compute resolved, except_bind_ok_iff.2
      ⟨resolved, hresolved, callHelper_of_computes hcompute name resolved env⟩⟩
  | map _ ih =>
    obtain ⟨values, hvalues⟩ := Fields.Forall₂.exists_of_forall ih
    exact ⟨_, Render.resolves_map_iff.2 ⟨values, rfl, hvalues⟩⟩
  | sequence _ ih =>
    obtain ⟨values, hvalues⟩ := exists_forall₂_iff.2 ih
    exact ⟨_, Render.resolves_sequence_iff.2 ⟨values, rfl, hvalues⟩⟩
  | scalar value => exact ⟨_, rfl⟩

/-- A helper of which the config is escaped gives what it gives, escaped. -/
theorem callHelper_escapeHtml {plugin : PluginId} {config : Value}
    (hcomputes : Computes plugins plugin choose ∨ Computes plugins plugin join)
    (hread : Computes plugins plugin join → JoinsTexts config) (name : String) (env : Value) :
    Render.callHelper plugins name plugin config.escapeHtml env =
      (Render.callHelper plugins name plugin config env).map Value.escapeHtml := by
  rcases hcomputes with hchoose | hjoin
  · rw [callHelper_of_computes hchoose, callHelper_of_computes hchoose, choose_escapeHtml]
    rfl
  · rw [callHelper_of_computes hjoin, callHelper_of_computes hjoin, join_escapeHtml (hread hjoin)]
    rfl

/-- A helper rendered by itself is called on an escaped config. In the config of a component
it is called on the config as it is, and what the component receives for it is escaped
then. Either way it comes to the same value. -/
theorem element_eq_received {used : Invocation} {env : Value}
    (h : Computed plugins (used.toNode .helper))
    (hread : Computes plugins used.plugin join → ∀ config,
      Render.Resolves plugins env used.config config → JoinsTexts config) (limit : Nat) :
    ∃ value, Render.element plugins true limit (used.toNode .helper) env = .ok value ∧
      (Render.resolve plugins env (used.toNode .helper)).map Value.escapeHtml = .ok value ∧
      ∀ fields key received, fields.lookup key = some (used.toNode .helper) →
        Render.prepareConfig plugins true (.map fields) env = .ok received →
          received.get? key = some value := by
  obtain ⟨output, houtput⟩ := h.resolves env
  obtain ⟨config, hconfig, hcall⟩ := except_bind_ok_iff.1 houtput
  have hcomputes : Computes plugins used.plugin choose ∨ Computes plugins used.plugin join := by
    cases h with
    | helper hcomputes _ => exact hcomputes
  have hescaped := callHelper_escapeHtml hcomputes (fun hjoin => hread hjoin config hconfig)
    used.name env
  refine ⟨output.escapeHtml, ?_, ?_, ?_⟩
  · have hprepared : Render.prepareConfig plugins true used.config env = .ok config.escapeHtml :=
      Render.prepareConfig_ok_iff.2 ⟨config, hconfig, rfl⟩
    refine except_bind_ok_iff.2 ⟨_, hprepared, ?_⟩
    rw [hescaped, hcall]
    rfl
  · rw [houtput]
    rfl
  · intro fields key received hl hreceived
    exact Render.get?_of_prepareConfig hreceived hl houtput

/-- Names from the environment, joined by a separator that a condition chooses. -/
def roster : Invocation where
  name := "join"
  plugin := ⟨3⟩
  config := .map
    [("$join", .bind ⟨"names", .null⟩),
     ("separator", .invocation .helper "if" ⟨2⟩
      (.map [("$if", .bind ⟨"long", .null⟩), ("then", .scalar (.string ", ")),
        ("else", .scalar (.string "&"))]) .null)]
  declaration := .null

def rosterNames : Value :=
  .object [("names", .array [.string "<a>", .array [.null, .string "b"]])]

theorem roster_received :
    Render.element Reference.plugins true 0 (roster.toNode .helper) rosterNames =
        .ok (.string "&lt;a&gt;&amp;&amp;b") ∧
      ∀ received, Render.prepareConfig Reference.plugins true (.map [("content", roster.toNode .helper)])
        rosterNames = .ok received →
          received.get? "content" = some (.string "&lt;a&gt;&amp;&amp;b") := by
  have hcomputed : Computed Reference.plugins (roster.toNode .helper) := by
    have hseparator : Computed Reference.plugins (.invocation .helper "if" ⟨2⟩
        (.map [("$if", .bind ⟨"long", .null⟩), ("then", .scalar (.string ", ")),
          ("else", .scalar (.string "&"))]) .null) :=
      .helper (.inl rfl) (.map (by simp [Computed.bind, Computed.scalar]))
    exact .helper (.inr rfl) (.map (by simp [Computed.bind, hseparator]))
  have hread : ∀ config, Render.Resolves Reference.plugins rosterNames roster.config config →
      JoinsTexts config := by
    intro config hconfig
    obtain rfl := Except.ok.inj hconfig
    have hinner : (Value.array [.null, .string "b"]).Textual :=
      .array (by simp [Value.Textual.null, Value.Textual.string])
    exact ⟨.array (by simp [Value.Textual.string, hinner]), .string "&"⟩
  obtain ⟨value, hrendered, -, hreceived⟩ :=
    element_eq_received hcomputed (fun _ => hread) 0
  have hvalue : Render.element Reference.plugins true 0 (roster.toNode .helper) rosterNames =
      .ok (.string "&lt;a&gt;&amp;&amp;b") := rfl
  obtain rfl := Except.ok.inj (hvalue.symm.trans hrendered)
  exact ⟨hvalue, fun received => hreceived _ "content" received rfl⟩

end Reference

end DeclaredUi
