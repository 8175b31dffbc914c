import DeclaredUi.Proofs.Ui.Selection
import Mathlib.Data.List.Induction

/-! An interface after a history of requests. All that counts of the history is the tree
that was installed last, the config that it was given since then, the escape flag that
was set last, and the warnings since the sink was cleared last. Each request keeps the
interface in the state that its history says, so every answer can be told from the
history alone, in whatever order trees, flags and failures came. -/

namespace DeclaredUi

variable {σ : Type}

/-- What a host asks of an interface. A visitor of elements has a state of its own. -/
inductive Request (σ : Type) where
  | parse (declaration : Json)
  | setRoot (root : Invocation)
  | setEscapeHtml (escapeHtml : Bool)
  | setConfig (config : Node)
  | render (limit : Nat) (env : Value)
  | uniqueBindPaths
  | eachElement (filter : ElementFilter)
  | forEachElement (filter : ElementFilter) (visit : σ → Json → σ) (start : σ)
  | clearWarnings

inductive Answer (σ : Type) where
  | done
  | parsed (result : Except Error Invocation)
  /-- Whether there was a tree whose config could be replaced. -/
  | replaced (found : Bool)
  | rendered (outcome : Outcome Value)
  | paths (result : Except Error (List String))
  | declarations (result : Except Error (List Json))
  | visited (result : Except Error σ)

namespace Answer

/-- The answers of failed parses, of renderings and of queries. -/
def readsOnly : Answer σ → Bool
  | .parsed (.error _) | .rendered _ | .paths _ | .declarations _ | .visited _ => true
  | .parsed (.ok _) | .done | .replaced _ => false

end Answer

namespace Ui

def perform (ui : Ui) : Request σ → Ui × Answer σ
  | .parse declaration => ((ui.parse declaration).1, .parsed (ui.parse declaration).2)
  | .setRoot root => (ui.setRoot root, .done)
  | .setEscapeHtml escapeHtml => (ui.setEscapeHtml escapeHtml, .done)
  | .setConfig config => (ui.setConfig config, .replaced ui.isParsed)
  | .render limit env => (ui, .rendered (ui.render limit env))
  | .uniqueBindPaths => (ui, .paths ui.uniqueBindPaths)
  | .eachElement filter => (ui, .declarations (ui.eachElement filter))
  | .forEachElement filter visit start => (ui, .visited (ui.forEachElement filter visit start))
  | .clearWarnings => ({ ui with sink := ui.sink.clear }, .done)

def after (ui : Ui) (history : List (Request σ)) : Ui :=
  history.foldl (fun ui request => (ui.perform request).1) ui

theorem after_concat (ui : Ui) (history : List (Request σ)) (request : Request σ) :
    ui.after (history ++ [request]) = ((ui.after history).perform request).1 := by
  simp [after]

end Ui

/-! ## What a request contributes -/

namespace Request

/-- The tree that the request installs, if it succeeds. -/
def installs? (registry : Registry) : Request σ → Option Invocation
  | .parse declaration => (Declaration.parse registry declaration).result.toOption
  | .setRoot root => some root
  | _ => none

def config? : Request σ → Option Node
  | .setConfig config => some config
  | _ => none

def escapeHtml? : Request σ → Option Bool
  | .setEscapeHtml escapeHtml => some escapeHtml
  | _ => none

/-- The warnings of an attempt to parse. -/
def warnings (registry : Registry) : Request σ → List Warning
  | .parse declaration => (Declaration.parse registry declaration).warnings
  | _ => []

def clears : Request σ → Bool
  | .clearWarnings => true
  | _ => false

end Request

/-! ## What a history says -/

namespace History

/-- The tree that was installed last, with the config that it was given last since
then. -/
def root? (registry : Registry) (history : List (Request σ)) : Option Invocation :=
  let since := history.reverse.takeWhile fun request => (request.installs? registry).isNone
  (history.reverse.findSome? (Request.installs? registry)).map fun root =>
    { root with config := (since.findSome? Request.config?).getD root.config }

/-- The flag that was set last, or else that of the options. -/
def escapeHtml (options : Options) (history : List (Request σ)) : Bool :=
  (history.reverse.findSome? Request.escapeHtml?).getD options.escapeHtml

/-- The warnings of all attempts to parse since the sink was cleared last, in order. -/
def warnings (registry : Registry) (history : List (Request σ)) : List Warning :=
  (history.reverse.takeWhile (!Request.clears ·)).reverse.flatMap (Request.warnings registry)

theorem root?_concat (registry : Registry) (history : List (Request σ)) (request : Request σ) :
    root? registry (history ++ [request]) =
      match request.installs? registry with
      | some root => some root
      | none => (root? registry history).map fun root =>
          { root with config := request.config?.getD root.config } := by
  unfold root?
  rw [List.reverse_append, List.reverse_singleton, List.singleton_append, List.findSome?_cons,
    List.takeWhile_cons]
  cases request.installs? registry with
  | some root => rfl
  | none =>
    simp only [Option.isNone_none, if_true, List.findSome?_cons, Option.map_map]
    cases request.config? with
    | some config => rfl
    | none => rfl

theorem escapeHtml_concat (options : Options) (history : List (Request σ))
    (request : Request σ) :
    escapeHtml options (history ++ [request]) =
      request.escapeHtml?.getD (escapeHtml options history) := by
  unfold escapeHtml
  rw [List.reverse_append, List.reverse_singleton, List.singleton_append, List.findSome?_cons]
  cases request.escapeHtml? <;> rfl

theorem warnings_concat (registry : Registry) (history : List (Request σ))
    (request : Request σ) :
    warnings registry (history ++ [request]) =
      if request.clears then [] else warnings registry history ++ request.warnings registry := by
  unfold warnings
  rw [List.reverse_append, List.reverse_singleton, List.singleton_append, List.takeWhile_cons]
  cases request.clears with
  | true => rfl
  | false => simp

/-- What is read off the elements of the tree in pre-order, if there is a tree. -/
def query {α : Type} (tree : Option Invocation) (operation : String)
    (read : List Element → α) : Except Error α :=
  match tree with
  | some root => .ok (read (root.toNode .component).preorder)
  | none => .error (.configuration (.queryUnparsed operation))

/-- The declarations of the elements that pass the filter. -/
def declarations (filter : ElementFilter) (elements : List Element) : List Json :=
  (elements.filter fun element => filter.accepts element.name).map Element.declaration

/-- The answer to a request, told from the tree and the flag. -/
def answer (plugins : Plugins) (registry : Registry) (tree : Option Invocation)
    (escapeHtml : Bool) : Request σ → Answer σ
  | .parse declaration =>
    .parsed ((Declaration.parse registry declaration).result.mapError .configuration)
  | .setRoot _ | .setEscapeHtml _ | .clearWarnings => .done
  | .setConfig _ => .replaced tree.isSome
  | .render limit env => .rendered (match tree with
    | some root => (Renderer.render ⟨root, escapeHtml⟩ plugins limit env).guarded
    | none => .error (.error (.configuration .renderUnparsed)))
  | .uniqueBindPaths => .paths (query tree "unique_bind_paths" fun elements =>
      (elements.filterMap Element.bindPath?).eraseDups)
  | .eachElement filter => .declarations (query tree "each_element" (declarations filter))
  | .forEachElement filter visit start =>
    .visited (query tree "each_element" fun elements =>
      (declarations filter elements).foldl visit start)

end History

/-! ## The state after a history -/

namespace Sink

/-- A sink of the same kind that holds just these warnings. -/
def holding (sink : Sink) (warnings : List Warning) : Sink :=
  match sink with
  | .silent => .silent
  | .recording _ => .recording (warnings.map Warning.message)

theorem warnAll_holding (sink : Sink) (earlier warnings : List Warning) :
    (sink.holding earlier).warnAll warnings = sink.holding (earlier ++ warnings) := by
  induction warnings generalizing earlier with
  | nil => simp [warnAll]
  | cons warning rest ih =>
    have hwarn : (sink.holding earlier).warn warning.message =
        sink.holding (earlier ++ [warning]) := by
      cases sink <;> simp [holding, warn]
    change ((sink.holding earlier).warn warning.message).warnAll rest = _
    rw [hwarn, ih, List.append_assoc, List.singleton_append]

theorem clear_holding (sink : Sink) (warnings : List Warning) :
    (sink.holding warnings).clear = sink.holding [] := by
  cases sink <;> rfl

end Sink

namespace Ui

/-- The interface is in the state that the history says. -/
structure Keeps (plugins : Plugins) (registry : Registry) (options : Options) (sink : Sink)
    (history : List (Request σ)) (ui : Ui) : Prop where
  plugins_eq : ui.plugins = plugins
  registry_eq : ui.registry = registry
  flag_eq : ui.options.escapeHtml = History.escapeHtml options history
  /-- The flag is stored once more beside the tree. -/
  renderer_eq : ui.renderer = (History.root? registry history).map fun root =>
    ⟨root, History.escapeHtml options history⟩
  sink_eq : ui.sink = sink.holding (History.warnings registry history)

section

variable {plugins : Plugins} {registry : Registry} {options : Options} {sink : Sink}
  {history : List (Request σ)} {ui : Ui}

/-- A request that only reads says nothing new. -/
theorem Keeps.concat_of_reads (h : ui.Keeps plugins registry options sink history)
    (request : Request σ) (hinstalls : request.installs? registry = none)
    (hconfig : request.config? = none) (hflag : request.escapeHtml? = none)
    (hclears : request.clears = false) :
    { ui with sink := ui.sink.warnAll (request.warnings registry) }.Keeps plugins registry options
      sink (history ++ [request]) where
  plugins_eq := h.plugins_eq
  registry_eq := h.registry_eq
  flag_eq := by
    rw [History.escapeHtml_concat, hflag]
    exact h.flag_eq
  renderer_eq := by
    rw [History.root?_concat, History.escapeHtml_concat, hinstalls, hconfig, hflag]
    simpa using h.renderer_eq
  sink_eq := by
    rw [History.warnings_concat, hclears, h.sink_eq]
    exact sink.warnAll_holding _ _

/-- A tree that is installed is the last one, under the flag that was set last. -/
theorem Keeps.concat_of_installs (h : ui.Keeps plugins registry options sink history)
    (request : Request σ) {root : Invocation} (hinstalls : request.installs? registry = some root)
    (hflag : request.escapeHtml? = none) (hclears : request.clears = false) :
    ({ ui with sink := ui.sink.warnAll (request.warnings registry) }.setRoot root).Keeps plugins
      registry options sink (history ++ [request]) where
  plugins_eq := h.plugins_eq
  registry_eq := h.registry_eq
  flag_eq := by
    rw [History.escapeHtml_concat, hflag]
    exact h.flag_eq
  renderer_eq := by
    rw [History.root?_concat, History.escapeHtml_concat, hinstalls, hflag]
    exact congrArg (fun flag => some (Renderer.mk root flag)) h.flag_eq
  sink_eq := by
    rw [History.warnings_concat, hclears, setRoot, h.sink_eq]
    exact sink.warnAll_holding _ _

theorem Keeps.concat_parse (h : ui.Keeps plugins registry options sink history)
    (declaration : Json) :
    (ui.parse declaration).1.Keeps plugins registry options sink
      (history ++ [.parse declaration]) := by
  obtain rfl := h.registry_eq
  have hinstalls : Request.installs? ui.registry (.parse declaration : Request σ) =
      (Declaration.parse ui.registry declaration).result.toOption := rfl
  unfold Ui.parse
  dsimp only
  cases hresult : (Declaration.parse ui.registry declaration).result with
  | ok root =>
    rw [hresult] at hinstalls
    exact h.concat_of_installs (.parse declaration) hinstalls rfl rfl
  | error fault =>
    rw [hresult] at hinstalls
    exact h.concat_of_reads (.parse declaration) hinstalls rfl rfl rfl

theorem Keeps.concat_setEscapeHtml (h : ui.Keeps plugins registry options sink history)
    (escapeHtml : Bool) :
    (ui.setEscapeHtml escapeHtml).Keeps plugins registry options sink
      (history ++ [.setEscapeHtml escapeHtml]) where
  plugins_eq := h.plugins_eq
  registry_eq := h.registry_eq
  flag_eq := by
    rw [History.escapeHtml_concat]
    rfl
  renderer_eq := by
    rw [History.root?_concat, History.escapeHtml_concat, Ui.setEscapeHtml, h.renderer_eq]
    simp [Request.installs?, Request.config?, Request.escapeHtml?, Function.comp_def]
  sink_eq := by
    rw [History.warnings_concat, Ui.setEscapeHtml, h.sink_eq]
    simp [Request.clears, Request.warnings]

theorem Keeps.concat_setConfig (h : ui.Keeps plugins registry options sink history)
    (config : Node) :
    (ui.setConfig config).Keeps plugins registry options sink
      (history ++ [.setConfig config]) where
  plugins_eq := h.plugins_eq
  registry_eq := h.registry_eq
  flag_eq := by
    rw [History.escapeHtml_concat]
    exact h.flag_eq
  renderer_eq := by
    rw [History.root?_concat, History.escapeHtml_concat, Ui.setConfig, modifyRoot, h.renderer_eq]
    simp [Request.installs?, Request.config?, Request.escapeHtml?, Function.comp_def]
  sink_eq := by
    rw [History.warnings_concat, Ui.setConfig, modifyRoot, h.sink_eq]
    simp [Request.clears, Request.warnings]

theorem Keeps.concat_clearWarnings (h : ui.Keeps plugins registry options sink history) :
    { ui with sink := ui.sink.clear }.Keeps plugins registry options sink
      (history ++ [Request.clearWarnings]) where
  plugins_eq := h.plugins_eq
  registry_eq := h.registry_eq
  flag_eq := by
    rw [History.escapeHtml_concat]
    exact h.flag_eq
  renderer_eq := by
    rw [History.root?_concat, History.escapeHtml_concat, h.renderer_eq]
    simp [Request.installs?, Request.config?, Request.escapeHtml?]
  sink_eq := by
    rw [History.warnings_concat, h.sink_eq]
    exact sink.clear_holding _

/-- Every request keeps the interface in the state that its history says. -/
theorem Keeps.concat (h : ui.Keeps plugins registry options sink history)
    (request : Request σ) :
    (ui.perform request).1.Keeps plugins registry options sink (history ++ [request]) := by
  cases request with
  | parse declaration => exact h.concat_parse declaration
  | setRoot root => exact h.concat_of_installs (.setRoot root) rfl rfl rfl
  | setEscapeHtml escapeHtml => exact h.concat_setEscapeHtml escapeHtml
  | setConfig config => exact h.concat_setConfig config
  | render limit env => exact h.concat_of_reads (.render limit env) rfl rfl rfl rfl
  | uniqueBindPaths => exact h.concat_of_reads .uniqueBindPaths rfl rfl rfl rfl
  | eachElement filter => exact h.concat_of_reads (.eachElement filter) rfl rfl rfl rfl
  | forEachElement filter visit start =>
    exact h.concat_of_reads (.forEachElement filter visit start) rfl rfl rfl rfl
  | clearWarnings => exact h.concat_clearWarnings

theorem keeps_after (plugins : Plugins) (registry : Registry) (options : Options) (sink : Sink)
    (history : List (Request σ)) :
    ((Ui.mk plugins registry options (sink.holding []) none).after history).Keeps plugins registry
      options sink history := by
  induction history using List.reverseRecOn with
  | nil => exact ⟨rfl, rfl, rfl, rfl, rfl⟩
  | append_singleton history request ih =>
    rw [after_concat]
    exact ih.concat request

theorem Keeps.root?_eq (h : ui.Keeps plugins registry options sink history) :
    ui.root? = History.root? registry history := by
  rw [Ui.root?, h.renderer_eq]
  cases History.root? registry history <;> rfl

theorem Keeps.uniqueBindPaths_eq (h : ui.Keeps plugins registry options sink history) :
    ui.uniqueBindPaths = History.query (History.root? registry history) "unique_bind_paths"
      fun elements => (elements.filterMap Element.bindPath?).eraseDups := by
  cases hfound : History.root? registry history with
  | none =>
    unfold uniqueBindPaths queryRoot
    rw [h.renderer_eq, hfound]
    rfl
  | some root => exact uniqueBindPaths_of_root (h.root?_eq.trans hfound)

theorem Keeps.eachElement_eq (h : ui.Keeps plugins registry options sink history)
    (filter : ElementFilter) :
    ui.eachElement filter = History.query (History.root? registry history) "each_element"
      (History.declarations filter) := by
  cases hfound : History.root? registry history with
  | none =>
    unfold eachElement select queryRoot
    rw [h.renderer_eq, hfound]
    rfl
  | some root => exact (visits_of_root (h.root?_eq.trans hfound) filter).listed

/-- The answer to a request is the one that the history says. -/
theorem Keeps.answer_eq (h : ui.Keeps plugins registry options sink history)
    (request : Request σ) :
    (ui.perform request).2 = History.answer plugins registry (History.root? registry history)
      (History.escapeHtml options history) request := by
  cases request with
  | parse declaration =>
    unfold Ui.perform Ui.parse History.answer
    dsimp only
    rw [h.registry_eq]
    cases (Declaration.parse registry declaration).result <;> rfl
  | setConfig config =>
    unfold Ui.perform isParsed History.answer
    rw [h.renderer_eq, Option.isSome_map]
  | render limit env =>
    unfold Ui.perform Ui.render History.answer
    rw [h.renderer_eq, h.plugins_eq]
    cases History.root? registry history <;> rfl
  | uniqueBindPaths => exact congrArg Answer.paths h.uniqueBindPaths_eq
  | eachElement filter => exact congrArg Answer.declarations (h.eachElement_eq filter)
  | forEachElement filter visit start =>
    show Answer.visited (ui.forEachElement filter visit start) = _
    rw [forEachElement, h.eachElement_eq]
    cases History.root? registry history <;> rfl
  | setRoot root => rfl
  | setEscapeHtml escapeHtml => rfl
  | clearWarnings => rfl

/-- A request that is answered without a change leaves all but the warnings as they were. -/
theorem perform_of_readsOnly {request : Request σ}
    (h : (ui.perform request).2.readsOnly = true) :
    ∃ sink, (ui.perform request).1 = { ui with sink } := by
  cases request with
  | parse declaration =>
    unfold perform parse at h ⊢
    dsimp only at h ⊢
    cases hresult : (Declaration.parse ui.registry declaration).result with
    | ok root =>
      rw [hresult] at h
      cases h
    | error fault => exact ⟨_, rfl⟩
  | render limit env => exact ⟨_, rfl⟩
  | uniqueBindPaths => exact ⟨_, rfl⟩
  | eachElement filter => exact ⟨_, rfl⟩
  | forEachElement filter visit start => exact ⟨_, rfl⟩
  | clearWarnings => exact ⟨_, rfl⟩
  | setRoot root => cases h
  | setEscapeHtml escapeHtml => cases h
  | setConfig config => cases h

end

/-- An interface answers by its history. After any sequence of requests, failures among
them, it holds the tree that was installed last with the config that it was given since,
the flag that was set last, which the renderer has too, and the warnings since the sink was
cleared. Each answer is told from that tree and that flag, a rendering being that of a
renderer made afresh from the two. A request that fails to parse, renders or reads leaves
everything as it was but for its warnings. -/
theorem answers_by_history (plugins : Plugins) (registry : Registry) (options : Options)
    (sink : Sink) (history : List (Request σ)) :
    let ui := (Ui.mk plugins registry options (sink.holding []) none).after history
    ui.Keeps plugins registry options sink history ∧
      (∀ request : Request σ, (ui.perform request).2 = History.answer plugins registry
        (History.root? registry history) (History.escapeHtml options history) request) ∧
      ∀ request : Request σ, (ui.perform request).2.readsOnly = true →
        ∃ sink, (ui.perform request).1 = { ui with sink } := by
  intro ui
  have hkeeps : ui.Keeps plugins registry options sink history := keeps_after ..
  exact ⟨hkeeps, hkeeps.answer_eq, fun _ => perform_of_readsOnly⟩

/-- A query before there is a tree, the flag before the tree, a declaration of two
components that replaces nothing, and a config put in the place of the parsed one. -/
def session : List (Request Nat) :=
  [.uniqueBindPaths, .setEscapeHtml false,
   .parse (.object [("$text", .string "old"), ("$note", .null)]),
   .parse (.object [("$text", .string "new"), ("$image", .null), ("$draft", .null)]),
   .setConfig (.map [("$text", .scalar (.string "<b>"))])]

theorem session_answers :
    let ui := (Ui.mk Reference.plugins Reference.registry {} (.recording []) none).after session
    ui.sink = .recording [Warning.message ⟨"$note"⟩, Warning.message ⟨"$draft"⟩] ∧
      (ui.perform (.render 2 (.object []) : Request Nat)).2 = .rendered (.ok (.string "<b>")) ∧
      ∃ sink, (ui.perform (.parse .null : Request Nat)).1 = { ui with sink } := by
  obtain ⟨hkeeps, hanswer, hreads⟩ :=
    answers_by_history Reference.plugins Reference.registry {} (.recording []) session
  refine ⟨hkeeps.sink_eq.trans ?_, (hanswer _).trans ?_, hreads (.parse .null) rfl⟩
  · decide
  · rfl

end Ui

end DeclaredUi
