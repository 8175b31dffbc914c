import DeclaredUi.Proofs.Declaration.Explicit
import DeclaredUi.Proofs.Reference.Simulation
import DeclaredUi.Proofs.Render.Resolve
import DeclaredUi.Proofs.Ui
import DeclaredUi.Proofs.Value.Escape

/-! Shorthand and explicit declarations mean the same. No reference plug-in can tell a
config from the same config with its marked name written out, so the tree of a
declaration and that of the declaration written out render alike: what they carry
through scopes and binds is the same but for components, which are written out on one
side. -/

namespace DeclaredUi

/-- A config with the marked name of its element written out. -/
def Value.restate (entry : Registry.Entry) (tag : String) : Value → Value
  | .object fields => .object (Reference.restate entry (.string tag) fields)
  | other => other

namespace Reference

variable {entry : Registry.Entry} {tag : String} {config : Value}

/-- The marked name and the key of the content are not both there. -/
def Unambiguous (entry : Registry.Entry) (config : Value) : Prop :=
  config.get? (mark entry.name) = none ∨ config.get? (contentKey entry.name) = none

theorem get?_restate {key : String} (hmark : key ≠ mark entry.name) (hrole : key ≠ entry.role.key)
    (hcontent : key ≠ contentKey entry.name) :
    (config.restate entry tag).get? key = config.get? key := by
  cases config with
  | object fields => exact lookup_restate_of_ne hmark hrole hcontent
  | _ => rfl

theorem restate_of_unmarked (h : config.get? (mark entry.name) = none) :
    config.restate entry tag = config := by
  cases config with
  | object fields =>
    exact congrArg Value.object (restate_eq_self (Fields.lookup_eq_none_iff.1 h))
  | _ => rfl

/-- Which of its two keys the content is under makes no difference. -/
theorem firstTruthy_restate (he : Spelling entry) (h : Unambiguous entry config) :
    (config.restate entry tag).firstTruthy [contentKey entry.name, mark entry.name] =
      config.firstTruthy [contentKey entry.name, mark entry.name] := by
  rcases h with hmark | hcontent
  · rw [restate_of_unmarked hmark]
  · cases config with
    | object fields =>
      have hgone : ((Value.object fields).restate entry tag).get? (mark entry.name) = none :=
        he.lookup_mark
      have hmoved : ((Value.object fields).restate entry tag).get? (contentKey entry.name) =
          (Value.object fields).get? (mark entry.name) := he.lookup_content hcontent
      unfold Value.firstTruthy Value.firstTruthy?
      simp only [List.filterMap_cons, List.filterMap_nil, hgone, hmoved, hcontent]
    | _ => rfl

/-- A condition decides under either key, also when it is `null` or `false`. -/
theorem condition_restate (he : Spelling entry) (hname : entry.name = "if")
    (h : Unambiguous entry config) :
    condition (config.restate entry tag) = condition config := by
  have hcontent : contentKey entry.name = "condition" := by
    rw [hname]
    rfl
  have hmark : mark entry.name = "$if" := by
    rw [hname]
    rfl
  rcases h with hnone | hfree
  · rw [restate_of_unmarked hnone]
  · cases config with
    | object fields =>
      have hgone : ((Value.object fields).restate entry tag).get? (mark entry.name) = none :=
        he.lookup_mark
      have hmoved : ((Value.object fields).restate entry tag).get? (contentKey entry.name) =
          (Value.object fields).get? (mark entry.name) := he.lookup_content hfree
      rw [hcontent] at hmoved hfree
      rw [hmark] at hgone hmoved
      unfold condition Value.getOrNull
      rw [hmoved, hgone, hfree]
      cases (Value.object fields).get? "$if" <;> rfl
    | _ => rfl

/-- The keys that reference plug-ins read beside that of the content. -/
def otherKeys : List String := ["alt", "do", "else", "separator", "then", "yield"]

theorem otherKeys_apart (he : entry ∈ registry.entries) {key : String} (hk : key ∈ otherKeys) :
    key ≠ mark entry.name ∧ key ≠ entry.role.key ∧ key ≠ contentKey entry.name := by
  have hall : ∀ entry ∈ registry.entries, ∀ key ∈ otherKeys,
      key ≠ mark entry.name ∧ key ≠ entry.role.key ∧ key ≠ contentKey entry.name := by decide
  exact hall entry he key hk

/-- What a reference plug-in does is settled by the content of its config, for a choice
its condition, and what is under the other keys. -/
theorem run_congr (he : entry ∈ registry.entries) {config' : Value}
    (hcontent : config'.firstTruthy [contentKey entry.name, mark entry.name] =
      config.firstTruthy [contentKey entry.name, mark entry.name])
    (hcondition : entry.name = "if" → condition config' = condition config)
    (hother : ∀ key ∈ otherKeys, config'.get? key = config.get? key)
    (env : Value) (children : Bool) :
    (plugins entry.plugin).run config' env children =
      (plugins entry.plugin).run config env children := by
  have hkey : ∀ key ∈ otherKeys, config'.getOrNull key = config.getOrNull key := by
    intro key hk
    rw [Value.getOrNull, hother key hk, Value.getOrNull]
  simp only [registry, List.mem_cons, List.not_mem_nil, or_false] at he
  rcases he with rfl | rfl | rfl | rfl | rfl | rfl | rfl | rfl
  · change each config' env = each config env
    have hitems : config'.firstTruthy ["items", "$each"] =
      config.firstTruthy ["items", "$each"] := hcontent
    rw [each, hitems, hother "yield" (by decide), hkey "do" (by decide), each]
  · change image config' env = image config env
    have hsource : config'.firstTruthy ["source", "$image"] =
      config.firstTruthy ["source", "$image"] := hcontent
    rw [image, hsource, hkey "alt" (by decide), image]
  · change Script.done (choose config') = Script.done (choose config)
    have hbranch := hkey (if condition config then "then" else "else") (by split <;> decide)
    rw [choose_eq, choose_eq, hcondition rfl, hbranch]
  · change Script.done (join config') = Script.done (join config)
    have hitems : config'.firstTruthy ["items", "$join"] =
      config.firstTruthy ["items", "$join"] := hcontent
    have hseparator : config'.firstTruthy? ["separator"] = config.firstTruthy? ["separator"] := by
      rw [Value.firstTruthy?, Value.firstTruthy?, List.filterMap_cons, List.filterMap_cons,
        hother "separator" (by decide)]
      rfl
    rw [join, hitems, hseparator, join]
  · change scope config' env = scope config env
    have hbindings : config'.firstTruthy ["bindings", "$let"] =
      config.firstTruthy ["bindings", "$let"] := hcontent
    rw [scope, hbindings, hkey "do" (by decide), scope]
  · change paragraph config' env = paragraph config env
    have hsentences : config'.firstTruthy ["sentences", "$paragraph"] =
      config.firstTruthy ["sentences", "$paragraph"] := hcontent
    rw [paragraph, hsentences, paragraph]
  · exact congrArg Script.done hcontent
  · change vbox config' env = vbox config env
    have hchildren : config'.firstTruthy ["children", "$vbox"] =
      config.firstTruthy ["children", "$vbox"] := hcontent
    rw [vbox, hchildren, vbox]

/-- No reference plug-in can tell the two forms of its config apart. -/
theorem run_restate (he : entry ∈ registry.entries) (h : Unambiguous entry config)
    (tag : String) (env : Value) (children : Bool) :
    (plugins entry.plugin).run (config.restate entry tag) env children =
      (plugins entry.plugin).run config env children := by
  have hs := spelling_of_mem he
  refine run_congr he (firstTruthy_restate hs h) (fun hname => condition_restate hs hname h)
    (fun key hk => ?_) env children
  obtain ⟨hmark, hrole, hcontent⟩ := otherKeys_apart he hk
  exact get?_restate hmark hrole hcontent

/-! ## Two renderings -/

/-- Elements of the reference registry, none with both keys for its content. -/
def Plain : Element → Prop
  | .bind _ => True
  | .invocation role used => Registered role used ∧ ∀ nodes, used.config = .map nodes →
      nodes.lookup (mark used.name) = none ∨ nodes.lookup (contentKey used.name) = none

/-- A component with plain elements, and the same component written out. -/
def WrittenOut (a b : Invocation) : Prop :=
  b = a.explicit .component ∧ ∀ element ∈ (a.toNode .component).preorder, Plain element

theorem text_writtenOut (a b : Invocation) (h : WrittenOut a b) : a.text = b.text := by
  rw [h.1]
  rfl

/-- The same value but for components, which are written out on the other side. -/
abbrev Same : Value → Value → Prop := Value.Alike (· = ·) WrittenOut

theorem scoping_same : Scoping Same Same where
  insert name he hvw := .object (he.fieldsOrEmpty.insert name hvw)
  bindings h := .object h

/-- A config and the same config with the marked name written out. -/
def Restated (entry : Registry.Entry) (config config' : Value) : Prop :=
  ∃ same tag, Same config same ∧ Unambiguous entry same ∧ config' = same.restate entry tag

variable {env env' : Value}

theorem run_of_restated {config' : Value} (he : entry ∈ registry.entries)
    (h : Restated entry config config') (henv : Same env env') (children : Bool) :
    Script.Related Same Same Same ((plugins entry.plugin).run config env children)
      ((plugins entry.plugin).run config' env' children) := by
  obtain ⟨same, tag, hsame, hplain, rfl⟩ := h
  rw [run_restate he hplain]
  exact run_related .eq text_writtenOut scoping_same henv
    (admits_of_alike (plugin_mem_table he) hsame) hsame children

theorem prepare_restated {config' : Value} (escape : Bool) (h : Restated entry config config') :
    Restated entry (Render.prepare escape config) (Render.prepare escape config') := by
  cases escape with
  | false => exact h
  | true =>
    obtain ⟨same, tag, hsame, hplain, rfl⟩ := h
    refine ⟨same.escapeHtml, Html.escape tag, hsame.escapeHtml fun a b hab => congrArg _ hab,
      ?_, ?_⟩
    · unfold Unambiguous at hplain ⊢
      rw [Value.get?_escapeHtml, Value.get?_escapeHtml, Option.map_eq_none_iff,
        Option.map_eq_none_iff]
      exact hplain
    · cases same with
      | object fields =>
        simp only [Render.prepare, if_true, Value.restate, Value.escapeHtml,
          Value.escapeFields_eq_mapValues, mapValues_restate]
      | _ => rfl

theorem resolveFields_restate (env : Value) (nodes : List (String × Node)) :
    Render.resolveFields plugins env (restate entry (.scalar (.string entry.name)) nodes) =
      (Render.resolveFields plugins env nodes).map (restate entry (.string entry.name)) := by
  induction nodes with
  | nil => rfl
  | cons field rest ih =>
    obtain ⟨key, node⟩ := field
    have hscalar : Render.resolve plugins env (.scalar (.string entry.name)) =
        .ok (.string entry.name) := by rw [Render.resolve, Value.ofJson]
    rw [restate_cons, Render.resolveFields]
    split
    · rename_i hkey
      simp only [List.cons_append, List.nil_append, Render.resolveFields, hscalar, ih]
      cases Render.resolve plugins env node with
      | error stop => rfl
      | ok value =>
        cases Render.resolveFields plugins env rest with
        | error stop => rfl
        | ok values =>
          change _ = Except.ok (restate entry _ ((key, value) :: values))
          rw [restate_cons, if_pos hkey]
          rfl
    · rename_i hkey
      simp only [List.cons_append, List.nil_append, Render.resolveFields, ih]
      cases Render.resolve plugins env node with
      | error stop => rfl
      | ok value =>
        cases Render.resolveFields plugins env rest with
        | error stop => rfl
        | ok values =>
          change _ = Except.ok (restate entry _ ((key, value) :: values))
          rw [restate_cons, if_neg hkey]
          rfl

/-- A config resolves to its value written out when it is written out. -/
theorem resolve_restate (env : Value) (nodes : List (String × Node)) :
    Render.resolve plugins env ((Node.map nodes).restate entry) =
      (Render.resolve plugins env (.map nodes)).map (Value.restate entry entry.name) := by
  rw [Node.restate, Render.resolve, resolveFields_restate, Render.resolve]
  cases Render.resolveFields plugins env nodes <;> rfl

theorem config_restated {role : Role} {used : Invocation} (hused : Plain (.invocation role used))
    (h : Outcome.Related Same (Render.resolve plugins env used.config)
      (Render.resolve plugins env' used.config.explicit)) :
    Outcome.Related (Restated ⟨used.name, used.plugin, role⟩)
      (Render.resolve plugins env used.config)
      (Render.resolve plugins env' (used.explicit role).config) := by
  obtain ⟨⟨-, nodes, hconfig⟩, hplain⟩ := hused
  rw [Invocation.explicit, hconfig, Node.explicit, Node.explicitFields_eq_mapValues,
    resolve_restate, ← hconfig]
  rw [hconfig, Node.explicit, Node.explicitFields_eq_mapValues, ← hconfig] at h
  refine h.attach.map_right fun config same hattached => ?_
  obtain ⟨hsame, -, hresolves⟩ := hattached
  refine ⟨same, used.name, hsame, ?_, rfl⟩
  have hget : ∀ key, nodes.lookup key = none → same.get? key = none := by
    intro key hkey
    refine Render.get?_eq_none_of_resolves hresolves ?_
    rw [Fields.lookup_mapValues, hkey]
    rfl
  exact (hplain nodes hconfig).imp (hget _) (hget _)

/-- A config written out resolves to the same value where the environment is the same. -/
theorem resolve_explicit {node : Node} (hn : ∀ element ∈ node.preorder, Plain element)
    (henv : Same env env') :
    Outcome.Related Same (Render.resolve plugins env node)
      (Render.resolve plugins env' node.explicit) := by
  induction node using Node.byParts with
  | bind reference => exact .ok (henv.evaluate reference)
  | invocation role name plugin config declaration ih =>
    cases role with
    | component => exact .ok (.element ⟨rfl, hn⟩)
    | helper =>
      have hplain := hn _ List.mem_cons_self
      have hconfig := config_restated hplain
        (ih fun element hm => hn element (List.mem_cons_of_mem _ hm))
      refine hconfig.bind fun v w hvw => ?_
      exact (run_of_restated hplain.1.entry hvw henv false).detached name
  | map fields ih =>
    rw [Node.explicit, Node.explicitFields_eq_mapValues]
    have hfields : Fields.Forall₂ (fun a b => Outcome.Related Same
        (Render.resolve plugins env a) (Render.resolve plugins env' b)) fields
          (Fields.mapValues Node.explicit fields) := .mapValues_right fun pair hm =>
      ih pair hm fun element he => hn element (Node.preorder_subset_map hm he)
    exact (Render.resolveFields_related hfields).bind fun _ _ hf => .ok (.object hf)
  | sequence items ih =>
    rw [Node.explicit, Node.explicitItems_eq_map]
    refine (Render.resolveItems_related ?_).bind fun _ _ hi => .ok (.array hi)
    rw [List.forall₂_map_right_iff, List.forall₂_same]
    intro item hm
    exact ih item hm fun element he => hn element (Node.preorder_subset_sequence hm he)
  | scalar value => exact .ok (.ofJson (fun _ => rfl) value)

theorem component_explicit (escape : Bool) {root : Invocation}
    (hroot : ∀ element ∈ (root.toNode .component).preorder, Plain element)
    (henv : Same env env') (limit : Nat) :
    Outcome.Related Same (Render.component plugins escape limit root env)
      (Render.component plugins escape limit (root.explicit .component) env') := by
  refine Render.component_related (fun a b env env' hab henv => ?_) limit root _ env env'
    ⟨rfl, hroot⟩ henv
  obtain ⟨rfl, ha⟩ := hab
  have hplain := ha _ List.mem_cons_self
  have hconfig := config_restated hplain
    (resolve_explicit (fun element hm => ha element (List.mem_cons_of_mem _ hm)) henv)
  refine hconfig.map fun v w hvw => ⟨rfl, ?_⟩
  exact run_of_restated hplain.1.entry (prepare_restated escape hvw) henv true

/-- What a declaration names is plain, if it leaves the explicit keys free. -/
theorem plain_of_declaredBy {role : Role} {used : Invocation}
    (h : Declaration.DeclaredBy registry role used)
    (hfree : Declaration.KeysFree (.invocation role used)) : Plain (.invocation role used) := by
  refine ⟨registered_of_declaredBy h, fun nodes hnodes => ?_⟩
  obtain ⟨fields, kept, hobject, hconfig, hkept, -⟩ := h
  obtain rfl := Node.map.inj (hconfig.symm.trans hnodes)
  have hlookup : ∀ key, kept.lookup key = none ↔ fields.lookup key = none := by
    intro key
    rw [Fields.lookup_eq_none_iff, Fields.lookup_eq_none_iff, Declaration.keys_of_kept hkept]
  rw [hlookup, hlookup]
  rw [Declaration.KeysFree, hobject] at hfree
  cases hmarked : fields.lookup (mark used.name) with
  | none => exact .inl rfl
  | some value =>
    have hcontent := hfree (Option.isSome_of_mem hmarked) _ List.mem_cons_self
    exact .inr (Option.isNone_iff_eq_none.1 hcontent)

end Reference

namespace Ui

/-- An accepted declaration can be written out: every level in shorthand names its
element explicitly instead, and the result is accepted, with or without escaping renders
exactly when the original does, and renders to the same text. -/
theorem render_explicit {ui parsed : Ui} {declaration : Json} {root : Invocation}
    (hplugins : ui.plugins = Reference.plugins) (hregistry : ui.registry = Reference.registry)
    (hparse : ui.parse declaration = (parsed, .ok root))
    (hfree : ∀ element ∈ root.elements.toList, Declaration.KeysFree element) :
    ∃ written, ui.parse declaration.explicit = (written, .ok (root.explicit .component)) ∧
      ∀ (limit : Nat) (env : Json), Outcome.Related (fun a b => a.text = b.text)
        (parsed.render limit (.ofJson env)) (written.render limit (.ofJson env)) := by
  obtain ⟨hroot, hsame, hrenderer⟩ := installed_of_parse hparse
  rw [hregistry] at hroot
  have hwritten := Declaration.parse_explicit hroot hfree
  rw [← hregistry] at hwritten
  obtain ⟨written, hparse'⟩ := parse_of_result hwritten
  obtain ⟨-, hsame', hrenderer'⟩ := installed_of_parse hparse'
  refine ⟨written, hparse', fun limit env => ?_⟩
  have hplain : ∀ element ∈ (root.toNode .component).preorder, Reference.Plain element := by
    intro element hm
    rw [← Invocation.toList_elements] at hm
    cases element with
    | bind reference => trivial
    | invocation role used =>
      exact Reference.plain_of_declaredBy (Declaration.declaredBy_of_parse hroot hm) (hfree _ hm)
  have henv : Reference.Same (.ofJson env) (.ofJson env) := .ofJson (fun _ => rfl) env
  have h := Reference.component_explicit ui.options.escapeHtml hplain henv limit
  unfold render Renderer.render
  rw [hrenderer, hrenderer', hsame, hsame', hplugins]
  exact (h.imp fun _ _ hvw => hvw.text .eq Reference.text_writtenOut).guarded

/-- A row of names, each with a cell of its own and a picture. -/
def team : Json :=
  .object [("yield", .string "member"), ("$each", .object [("$bind", .string "members")]),
    ("do", .object [("$let", .object [
        ("cell", .object [("$text", .object [
          ("then", .object [("$join", .array [.object [("$bind", .string "member.name")],
            .string "!"])]),
          ("$if", .object [("$bind", .string "member.name")])])]),
        ("$unknown", .object [("$bind", .string "member.photo")])]),
      ("do", .object [("$component", .string "vbox"), ("children", .array [
        .object [("$bind", .string "cell")],
        .object [("$image", .object [("$bind", .string "$unknown"), ("note", .object [
          ("$text", .null)])])]])])])]

/-- The same with every element named explicitly. -/
def teamExplicit : Json :=
  .object [("yield", .string "member"), ("$component", .string "each"),
    ("items", .object [("$bind", .string "members")]),
    ("do", .object [("$component", .string "let"), ("bindings", .object [
        ("cell", .object [("$component", .string "text"), ("content", .object [
          ("then", .object [("$helper", .string "join"), ("items", .array [
            .object [("$bind", .string "member.name")], .string "!"])]),
          ("$helper", .string "if"),
          ("condition", .object [("$bind", .string "member.name")])])]),
        ("$unknown", .object [("$bind", .string "member.photo")])]),
      ("do", .object [("$component", .string "vbox"), ("children", .array [
        .object [("$bind", .string "cell")],
        .object [("$component", .string "image"),
          ("source", .object [("$bind", .string "$unknown"), ("note", .object [
            ("$text", .null)])])]])])])]

theorem team_renders_explicit : ∃ root parsed written,
    (Ui.mk Reference.plugins Reference.registry {} .silent none).parse team =
      (parsed, .ok root) ∧
    (Ui.mk Reference.plugins Reference.registry {} .silent none).parse teamExplicit =
      (written, .ok (root.explicit .component)) ∧
    ∀ (limit : Nat) (env : Json), Outcome.Related (fun a b => a.text = b.text)
      (parsed.render limit (.ofJson env)) (written.render limit (.ofJson env)) := by
  have hparse : (Ui.mk Reference.plugins Reference.registry {} .silent none).parse team =
      (_, .ok _) := rfl
  obtain ⟨written, hwritten, h⟩ := render_explicit rfl rfl hparse (by
    rw [Invocation.toList_elements]
    decide)
  have hteam : team.explicit = teamExplicit := rfl
  rw [hteam] at hwritten
  exact ⟨_, _, written, hparse, hwritten, h⟩

end Ui

end DeclaredUi
