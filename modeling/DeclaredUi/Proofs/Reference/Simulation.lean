import DeclaredUi.Proofs.Render.Simulation
import DeclaredUi.Proofs.Value.Text
import DeclaredUi.Reference.Registry

/-! The reference plug-ins on alike configs. Each of them reads its config by
shape, asks for children in the environment it was given or in one made from it
and from its config, and puts texts together. So alike configs in related
environments give related scripts, for every relation of texts that the writing
keeps and every relation of environments that the new scopes keep. -/

namespace DeclaredUi

namespace Reference

/-- A relation of texts that the layouts of the components keep. -/
structure Layout (S : String → String → Prop) : Prop extends Formatting S where
  sentence {a b : String} : S a b → S (Reference.sentence a) (Reference.sentence b)
  terminated {a b : String} : S a b → S (Lines.terminated a) (Lines.terminated b)
  indented {a b : String} : S a b →
    S (String.join ((Reference.indented a).map Lines.terminated))
      (String.join ((Reference.indented b).map Lines.terminated))

namespace Layout

theorem trivial : Layout fun _ _ => True where
  toFormatting := .trivial
  sentence _ := True.intro
  terminated _ := True.intro
  indented _ := True.intro

theorem eq : Layout fun a b => a = b where
  toFormatting := .eq
  sentence h := by rw [h]
  terminated h := by rw [h]
  indented h := by rw [h]

end Layout

/-- A relation of environments that holds again in the scopes which components
make: the environment with one more name, and the bindings by themselves. -/
structure Scoping (V E : Value → Value → Prop) : Prop where
  insert {env env' v w : Value} (name : String) : E env env' → V v w →
    E (.object (Fields.insert name v env.fieldsOrEmpty))
      (.object (Fields.insert name w env'.fieldsOrEmpty))
  bindings {fields others : List (String × Value)} : Fields.Forall₂ V fields others →
    E (.object fields) (.object others)

/-- The name under which `each` binds its items. -/
def yieldName (config : Value) : String := ((config.get? "yield").bind Value.string?).getD ""

/-- What `choose` decides by. -/
def condition (config : Value) : Bool :=
  match config.get? "condition" with
  | some condition => condition.truthy
  | none => (config.getOrNull "$if").truthy

theorem choose_eq (config : Value) :
    choose config = config.getOrNull (if condition config then "then" else "else") := rfl

/-- A box is its opening, the lines of its children, and its closing. -/
theorem join_box (rendered : List String) :
    String.join ((boxOpening :: rendered.flatMap indented ++ [boxClosing]).map Lines.terminated) =
      Lines.terminated boxOpening ++
        String.join (rendered.map fun text => String.join ((indented text).map Lines.terminated)) ++
        Lines.terminated boxClosing := by
  have hlines : String.join ((rendered.flatMap indented).map Lines.terminated) =
      String.join (rendered.map fun text =>
        String.join ((indented text).map Lines.terminated)) := by
    induction rendered with
    | nil => rfl
    | cons text rest ih =>
      rw [List.flatMap_cons, List.map_append, String.join_append, ih, List.map_cons,
        String.join_cons]
  rw [List.map_append, String.join_append, List.map_cons, String.join_cons, hlines]
  simp [String.join_cons, String.join_nil]

section

variable {S : String → String → Prop} {I : Invocation → Invocation → Prop}
  {E : Value → Value → Prop} {config config' env env' : Value}

theorem renderTexts_related (hs : Layout S) (hi : ∀ a b, I a b → S a.text b.text)
    (he : E env env') {children others : List Value}
    (h : List.Forall₂ (Value.Alike S I) children others) :
    Script.Related (Value.Alike S I) E (List.Forall₂ S) (renderTexts env children)
      (renderTexts env' others) := by
  induction h with
  | nil => exact .done .nil
  | cons hab _ ih =>
    refine (Script.Related.render hab he).bind fun v w hvw => ?_
    exact ih.bind fun _ _ hrest => .done (.cons (hvw.text hs.toFormatting hi) hrest)

theorem text_related (env env' : Value)
    (h : Value.Alike S I (config.firstTruthy ["content", "$text"])
      (config'.firstTruthy ["content", "$text"])) :
    Script.Related (Value.Alike S I) E (Value.Alike S I) (text config env) (text config' env') :=
  .done h

theorem image_related (hs : Layout S) (hi : ∀ a b, I a b → S a.text b.text)
    (env env' : Value)
    (source : Value.Alike S I (config.firstTruthy ["source", "$image"])
      (config'.firstTruthy ["source", "$image"]))
    (alt : Value.Alike S I (config.getOrNull "alt") (config'.getOrNull "alt")) :
    Script.Related (Value.Alike S I) E (Value.Alike S I) (image config env)
      (image config' env') := by
  have hsource := source.text hs.toFormatting hi
  have halt := alt.text hs.toFormatting hi
  exact .done (.string (hs.append (hs.append (hs.append (hs.append (hs.refl _) hsource)
    (hs.refl _)) halt) (hs.refl _)))

theorem paragraph_related (hs : Layout S) (hi : ∀ a b, I a b → S a.text b.text)
    (he : E env env')
    (sentences : Value.Alike S I (config.firstTruthy ["sentences", "$paragraph"])
      (config'.firstTruthy ["sentences", "$paragraph"])) :
    Script.Related (Value.Alike S I) E (Value.Alike S I) (paragraph config env)
      (paragraph config' env') := by
  refine (renderTexts_related hs hi he sentences.intoItems).bind fun texts others h => ?_
  have hjoined := hs.intercalate (hs.refl " ")
    (List.forall₂_map_left_iff.2 (List.forall₂_map_right_iff.2 (h.imp fun _ _ => hs.sentence)))
  exact .done (.string (hs.append (hs.append (hs.refl _) hjoined) (hs.refl _)))

theorem vbox_related (hs : Layout S) (hi : ∀ a b, I a b → S a.text b.text) (he : E env env')
    (children : Value.Alike S I (config.firstTruthy ["children", "$vbox"])
      (config'.firstTruthy ["children", "$vbox"])) :
    Script.Related (Value.Alike S I) E (Value.Alike S I) (vbox config env)
      (vbox config' env') := by
  refine (renderTexts_related hs hi he children.intoItems).bind fun texts others h => ?_
  refine .done (.string ?_)
  rw [join_box, join_box]
  have hlines := hs.join
    (List.forall₂_map_left_iff.2 (List.forall₂_map_right_iff.2 (h.imp fun _ _ => hs.indented)))
  exact hs.append (hs.append (hs.refl _) hlines) (hs.refl _)

/-- The scope of each item is made from that of the item before. -/
theorem renderEach_related (hs : Layout S) (hi : ∀ a b, I a b → S a.text b.text)
    (hE : Scoping (Value.Alike S I) E) {child child' : Value}
    (hc : Value.Alike S I child child') (name : String) {items others : List Value}
    (h : List.Forall₂ (Value.Alike S I) items others) (he : E env env') :
    Script.Related (Value.Alike S I) E S (renderEach child name env.fieldsOrEmpty items)
      (renderEach child' name env'.fieldsOrEmpty others) := by
  -- an item leaves its scope to the next, so the environments change on the way
  induction h generalizing env env' with
  | nil => exact .done (hs.refl _)
  | cons hab _ ih =>
    have hscope := hE.insert name he hab
    refine (Script.Related.render hc hscope).bind fun v w hvw => ?_
    have hline := hs.terminated (hvw.text hs.toFormatting hi)
    exact (ih hscope).bind fun _ _ hrest => .done (hs.append hline hrest)

theorem each_related (hs : Layout S) (hi : ∀ a b, I a b → S a.text b.text)
    (hE : Scoping (Value.Alike S I) E) (he : E env env')
    (items : Value.Alike S I (config.firstTruthy ["items", "$each"])
      (config'.firstTruthy ["items", "$each"]))
    (name : yieldName config = yieldName config')
    (child : Value.Alike S I (config.getOrNull "do") (config'.getOrNull "do")) :
    Script.Related (Value.Alike S I) E (Value.Alike S I) (each config env)
      (each config' env') := by
  change Script.Related _ _ _ (renderEach _ (yieldName config) _ _ >>= _)
    (renderEach _ (yieldName config') _ _ >>= _)
  rw [name]
  exact (renderEach_related hs hi hE child _ items.intoItems he).bind
    fun _ _ h => .done (.string h)

theorem scope_related (hE : Scoping (Value.Alike S I) E) (env env' : Value)
    (bindings : Value.Alike S I (config.firstTruthy ["bindings", "$let"])
      (config'.firstTruthy ["bindings", "$let"]))
    (child : Value.Alike S I (config.getOrNull "do") (config'.getOrNull "do")) :
    Script.Related (Value.Alike S I) E (Value.Alike S I) (scope config env)
      (scope config' env') :=
  .render child (hE.bindings bindings.fieldsOrEmpty)

theorem condition_eq (h : Value.Alike S I config config') :
    condition config = condition config' := by
  have hk := h.get? "condition"
  unfold condition
  generalize config.get? "condition" = a, config'.get? "condition" = b at hk
  cases hk with
  | none => exact (h.getOrNull "$if").truthy_eq
  | some hab => exact hab.truthy_eq

theorem choose_alike (h : Value.Alike S I config config') :
    Value.Alike S I (choose config) (choose config') := by
  rw [choose_eq, choose_eq, condition_eq h]
  exact h.getOrNull _

theorem leaves_alike {v w : Value} (h : Value.Alike S I v w) :
    List.Forall₂ (Value.Alike S I) (leaves v) (leaves w) := by
  refine Value.Alike.byParts
    (motive := fun v w => List.Forall₂ (Value.Alike S I) (leaves v) (leaves w))
    (.cons .null .nil) (fun value => .cons (.bool value) .nil)
    (fun value => .cons (.number value) .nil) ?string ?array ?object ?element
    (fun value => .cons (.foreign value) .nil) h
  case string => exact fun a b hab => .cons (.string hab) .nil
  case array =>
    intro items others hitems ih
    clear hitems
    simp only [leaves]
    induction ih with
    | nil => exact .nil
    | cons hab _ ih => exact List.rel_append hab ih
  case object => exact fun fields others hf _ => .cons (.object hf) .nil
  case element => exact fun a b hab => .cons (.element hab) .nil

theorem join_alike (hs : Formatting S) (hi : ∀ a b, I a b → S a.text b.text)
    (h : Value.Alike S I config config') : Value.Alike S I (join config) (join config') := by
  have hitems := (h.firstTruthy ["items", "$join"]).intoItems
  have hseparator := h.firstTruthy? ["separator"]
  unfold join
  dsimp only
  refine .string (hs.intercalate ?separator ?leaves)
  case separator =>
    generalize config.firstTruthy? ["separator"] = a,
      config'.firstTruthy? ["separator"] = b at hseparator
    cases hseparator with
    | none => exact hs.refl _
    | some hab => exact hab.text hs hi
  case leaves =>
    have hleaves := leaves_alike (.array hitems)
    simp only [leaves] at hleaves
    exact List.forall₂_map_left_iff.2 (List.forall₂_map_right_iff.2
      (hleaves.imp fun _ _ hab => hab.text hs hi))

/-- Every reference plug-in runs related scripts on alike configs; `each` has to be
told to bind its items under the same name. -/
theorem run_related (hs : Layout S) (hi : ∀ a b, I a b → S a.text b.text)
    (hE : Scoping (Value.Alike S I) E) (he : E env env') {plugin : Plugin}
    (hp : plugin = .component each ∧ yieldName config = yieldName config' ∨
      plugin ∈ (table.map Prod.snd).tail)
    (h : Value.Alike S I config config') (children : Bool) :
    Script.Related (Value.Alike S I) E (Value.Alike S I) (plugin.run config env children)
      (plugin.run config' env' children) := by
  simp only [table, List.map_cons, List.map_nil, List.tail_cons, List.mem_cons, List.not_mem_nil,
    or_false] at hp
  rcases hp with ⟨rfl, hy⟩ | rfl | rfl | rfl | rfl | rfl | rfl | rfl
  · exact each_related hs hi hE he (h.firstTruthy _) hy (h.getOrNull _)
  · exact image_related hs hi env env' (h.firstTruthy _) (h.getOrNull _)
  · exact .done (choose_alike h)
  · exact .done (join_alike hs.toFormatting hi h)
  · exact scope_related hE env env' (h.firstTruthy _) (h.getOrNull _)
  · exact paragraph_related hs hi he (h.firstTruthy _)
  · exact text_related env env' (h.firstTruthy _)
  · exact vbox_related hs hi he (h.firstTruthy _)

/-- With equal strings `each` binds its items under the same name, so it makes no
difference which of the plug-ins runs. -/
theorem admits_of_alike {plugin : Plugin} (hp : plugin ∈ table.map Prod.snd)
    (h : Value.Alike (· = ·) I config config') :
    plugin = .component each ∧ yieldName config = yieldName config' ∨
      plugin ∈ (table.map Prod.snd).tail := by
  rcases List.mem_cons.1 hp with hp | hp
  · left
    have hyield := h.get? "yield"
    unfold yieldName
    generalize config.get? "yield" = a, config'.get? "yield" = b at hyield
    cases hyield with
    | none => exact ⟨hp, rfl⟩
    | some hab =>
      cases hab with
      | string hs => exact ⟨hp, by rw [hs]⟩
      | _ => exact ⟨hp, rfl⟩
  · exact .inr hp

/-- Without a way to render children the environments do not matter. -/
theorem callHelper_related (hs : Layout S) (hi : ∀ a b, I a b → S a.text b.text)
    {plugins : Plugins} (name : String) {plugin : PluginId}
    (hp : plugins plugin = .component each ∧ yieldName config = yieldName config' ∨
      plugins plugin ∈ (table.map Prod.snd).tail)
    (h : Value.Alike S I config config') (env env' : Value) :
    Outcome.Related (Value.Alike S I) (Render.callHelper plugins name plugin config env)
      (Render.callHelper plugins name plugin config' env') := by
  have hany : Scoping (Value.Alike S I) fun _ _ => True := ⟨fun _ _ _ => trivial, fun _ => trivial⟩
  exact (run_related hs hi hany trivial hp h false).detached name

end

end Reference

end DeclaredUi
