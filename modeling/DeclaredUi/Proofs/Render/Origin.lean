import DeclaredUi.Fixture
import DeclaredUi.Proofs.Render.Trace
import DeclaredUi.Ui.Basic

/-! Where an error comes from. As long as every component passes on the errors of its
children, nothing happens after the first failure but that it is handed up, so the
rendering ends with that failure: its category, the name of the element that failed
and the message are those of the first call to fail, at whatever depth it was made and
whether it was that of a component or of a helper in a config. -/

namespace DeclaredUi

namespace PluginError

/-- The error as it was handed out, under any number of remarks. -/
inductive Wraps (error : Error) : PluginError → Prop
  | raised : Wraps error (.raised error)
  | context (remark : String) {cause : PluginError} : Wraps error cause →
      Wraps error (.context remark cause)

/-- What is under the remarks is found. -/
theorem raised?_of_wraps {error : Error} {wrapped : PluginError} (h : wrapped.Wraps error) :
    wrapped.raised? = some error := by
  induction h with
  | raised => rfl
  | context remark _ ih => exact ih

end PluginError

/-- What becomes of a failure of `element` in the end: an error that was raised stays
what it is, another becomes a rendering error of this element with its own message, and
a panic an internal error. -/
def Failure.report (element : String) : Failure → Error
  | .panic message => .internal message
  | .error failed =>
    match failed.raised? with
    | some raised => raised
    | none => .rendering element failed.text

theorem Outcome.guarded_ofFailure (element : String) (failure : Failure) :
    Outcome.guarded (.error (.ofFailure element failure) : Outcome Value) =
      .error (.error (failure.report element)) := by
  cases failure with
  | panic message => rfl
  | error failed =>
    have hblame : failed.blame element = Failure.report element (.error failed) := by
      rw [PluginError.blame, Failure.report]
      cases failed.raised? <;> rfl
    exact congrArg (fun error => Except.error (Stop.error error)) hblame

/-- Every error of a child ends the script with this error, as it is or under remarks. -/
inductive Script.PassesOn {α : Type} : Script α → Prop
  | done (result : α) : PassesOn (.done result)
  | fail (failure : Failure) : PassesOn (.fail failure)
  | renderChild {child env : Value} {next : Except Error Value → Script α} :
      (∀ value, PassesOn (next (.ok value))) →
      (∀ error, ∃ wrapped, wrapped.Wraps error ∧ next (.error error) = .fail (.error wrapped)) →
      PassesOn (.renderChild child env next)

theorem Script.PassesOn.render (child env : Value) : (Script.render child env).PassesOn :=
  .renderChild (fun value => .done value) fun error => ⟨.raised error, .raised, rfl⟩

/-- A call of a component that passes on the errors of its children. -/
def Call.PassesOn (plugins : Plugins) (call : Call) : Prop :=
  call.occasion = .component →
    ((plugins call.element.plugin).run call.config call.env true).PassesOn

namespace Traced

variable {α β : Type} {plugins : Plugins}

/-- Every component in the trace passes on the errors of its children. -/
def PassesOn (plugins : Plugins) (trace : Traced α) : Prop :=
  ∀ call, .started call ∈ trace.events → call.PassesOn plugins

theorem events_bind_ok {trace : Traced α} {a : α} (h : trace.outcome = .ok a)
    (next : α → Traced β) : (trace >>= next).events = trace.events ++ (next a).events := by
  change (trace.bind next).events = _
  rw [Traced.bind, h]

theorem events_bind_error {trace : Traced α} {stop : Stop} (h : trace.outcome = .error stop)
    (next : α → Traced β) : (trace >>= next).events = trace.events := by
  change (trace.bind next).events = _
  rw [Traced.bind, h]

theorem PassesOn.of_bind {trace : Traced α} {next : α → Traced β}
    (hp : (trace >>= next).PassesOn plugins) : trace.PassesOn plugins := by
  intro call hm
  refine hp call ?_
  cases ho : trace.outcome with
  | ok a =>
    rw [events_bind_ok ho]
    exact List.mem_append_left _ hm
  | error stop =>
    rw [events_bind_error ho]
    exact hm

theorem PassesOn.of_bind_ok {trace : Traced α} {next : α → Traced β}
    (hp : (trace >>= next).PassesOn plugins) {a : α} (ho : trace.outcome = .ok a) :
    (next a).PassesOn plugins := by
  intro call hm
  refine hp call ?_
  rw [events_bind_ok ho]
  exact List.mem_append_right _ hm

/-- The first failure is how the rendering ends; without one it ends with a value or at
the limit. -/
structure Attributed (trace : Traced α) : Prop where
  failed : ∀ call failure, trace.firstFailure? = some (call, failure) →
    trace.outcome = .error (.ofFailure call.element.name failure)
  unfailed : trace.firstFailure? = none → ∀ stop, trace.outcome = .error stop → stop = .tooDeep

namespace Attributed

theorem of_some {trace : Traced α} {call : Call} {failure : Failure}
    (hf : trace.firstFailure? = some (call, failure))
    (ho : trace.outcome = .error (.ofFailure call.element.name failure)) : trace.Attributed where
  failed call' failure' h := by
    obtain ⟨rfl, rfl⟩ := Prod.mk.inj (Option.some.inj (hf.symm.trans h))
    exact ho
  unfailed h := by
    rw [hf] at h
    cases h

theorem of_none {trace : Traced α} (hf : trace.firstFailure? = none)
    (h : ∀ stop, trace.outcome = .error stop → stop = .tooDeep) : trace.Attributed where
  failed call failure h := by
    rw [hf] at h
    cases h
  unfailed _ := h

theorem pure (a : α) : (Pure.pure a : Traced α).Attributed :=
  of_none rfl fun stop h => by cases h

/-- A trace that comes to a value has no failure in it. -/
theorem firstFailure?_eq_none {trace : Traced α} (h : trace.Attributed) {a : α}
    (ho : trace.outcome = .ok a) : trace.firstFailure? = none := by
  cases hf : trace.firstFailure? with
  | none => rfl
  | some found =>
    have herror := h.failed found.1 found.2 hf
    rw [ho] at herror
    cases herror

theorem bind {trace : Traced α} {next : α → Traced β}
    (h : trace.PassesOn plugins → trace.Attributed)
    (hnext : ∀ a, trace.outcome = .ok a → (next a).PassesOn plugins → (next a).Attributed)
    (hp : (trace >>= next).PassesOn plugins) : (trace >>= next).Attributed := by
  have houtcome := Trace.outcome_bind trace next
  have hfirst := h hp.of_bind
  cases ho : trace.outcome with
  | ok a =>
    have hnone := hfirst.firstFailure?_eq_none ho
    have hlater := hnext a ho (hp.of_bind_ok ho)
    have hsame : (trace >>= next).firstFailure? = (next a).firstFailure? := by
      unfold firstFailure? at hnone ⊢
      rw [events_bind_ok ho, List.findSome?_append, hnone, Option.none_or]
    rw [ho] at houtcome
    cases hf : (next a).firstFailure? with
    | some found =>
      exact of_some (hsame.trans hf) (houtcome.trans (hlater.failed found.1 found.2 hf))
    | none =>
      exact of_none (hsame.trans hf) fun stop hs => hlater.unfailed hf stop (houtcome.symm.trans hs)
  | error stop =>
    have hsame : (trace >>= next).firstFailure? = trace.firstFailure? := by
      rw [firstFailure?, events_bind_error ho, firstFailure?]
    rw [ho] at houtcome
    cases hf : trace.firstFailure? with
    | some found =>
      have hstop : stop = .ofFailure found.1.element.name found.2 :=
        Except.error.inj (ho.symm.trans (hfirst.failed found.1 found.2 hf))
      exact of_some (hsame.trans hf) (houtcome.trans (congrArg Except.error hstop))
    | none =>
      refine of_none (hsame.trans hf) fun stop' hs => ?_
      obtain rfl : stop = stop' := Except.error.inj (houtcome.symm.trans hs)
      exact hfirst.unfailed hf stop ho

end Attributed

/-! ## A call from start to end -/

/-- What goes on in a call. A first failure in it settles how the call ends, under
whatever name it ends; without one the call ends by itself or at the limit. -/
structure Settled (steps : Traced (Except Failure α)) : Prop where
  failed : ∀ call failure, steps.firstFailure? = some (call, failure) → ∀ element,
    (steps.outcome >>= fun ending => ending.mapError (Stop.ofFailure element)) =
      .error (.ofFailure call.element.name failure)
  unfailed : steps.firstFailure? = none → ∀ stop, steps.outcome = .error stop → stop = .tooDeep

namespace Settled

theorem of_some {steps : Traced (Except Failure α)} {call : Call} {failure : Failure}
    (hf : steps.firstFailure? = some (call, failure))
    (ho : ∀ element, (steps.outcome >>= fun ending => ending.mapError (Stop.ofFailure element)) =
      .error (.ofFailure call.element.name failure)) : steps.Settled where
  failed call' failure' h := by
    obtain ⟨rfl, rfl⟩ := Prod.mk.inj (Option.some.inj (hf.symm.trans h))
    exact ho
  unfailed h := by
    rw [hf] at h
    cases h

theorem of_none {steps : Traced (Except Failure α)} (hf : steps.firstFailure? = none)
    (h : ∀ stop, steps.outcome = .error stop → stop = .tooDeep) : steps.Settled where
  failed call failure hsome := by
    rw [hf] at hsome
    cases hsome
  unfailed _ := h

theorem pure (ending : Except Failure α) :
    (Pure.pure ending : Traced (Except Failure α)).Settled :=
  of_none rfl fun stop h => by cases h

/-- Steps that start with a child which comes to a value are settled as the steps
after it. -/
theorem of_value {child : Traced Value} {value : Value} (hc : child.Attributed)
    (hv : child.outcome = .ok value) {next : Except Error Value → Traced (Except Failure α)}
    (h : (next (.ok value)).Settled) : (child.caught >>= next).Settled := by
  have hcaught : child.caught.outcome = .ok (.ok value) := by
    rw [Trace.outcome_caught, hv, Outcome.caught]
  have hsame : (child.caught >>= next).firstFailure? = (next (.ok value)).firstFailure? := by
    have hnone := hc.firstFailure?_eq_none hv
    unfold firstFailure? at hnone ⊢
    rw [events_bind_ok hcaught, List.findSome?_append]
    exact (congrArg (Option.or · _) hnone).trans Option.none_or
  have houtcome : (child.caught >>= next).outcome = (next (.ok value)).outcome := by
    rw [Trace.outcome_bind, hcaught]
    rfl
  refine ⟨?failed, ?unfailed⟩
  case failed =>
    intro call failure hf element
    rw [houtcome]
    exact h.failed call failure (hsame ▸ hf) element
  case unfailed =>
    intro hf stop hs
    exact h.unfailed (hsame ▸ hf) stop (houtcome ▸ hs)

/-- Steps that start with a child whose error they pass on are settled by this error. -/
theorem of_error {child : Traced Value} {error : Error} (hc : child.Attributed)
    (he : child.outcome = .error (.error error)) {wrapped : PluginError} (hw : wrapped.Wraps error)
    {next : Except Error Value → Traced (Except Failure α)}
    (hn : next (.error error) = Pure.pure (.error (.error wrapped))) :
    (child.caught >>= next).Settled := by
  have hcaught : child.caught.outcome = .ok (.error error) := by
    rw [Trace.outcome_caught, he, Outcome.caught]
  have hsame : (child.caught >>= next).firstFailure? = child.firstFailure? := by
    rw [firstFailure?, events_bind_ok hcaught, hn]
    exact congrArg (List.findSome? Event.failure?) (List.append_nil child.events)
  cases hf : child.firstFailure? with
  | none => cases hc.unfailed hf _ he
  | some found =>
    have hstop := he.symm.trans (hc.failed found.1 found.2 hf)
    refine of_some (hsame.trans hf) fun element => ?_
    have hblame : wrapped.blame element = error := by
      rw [PluginError.blame, PluginError.raised?_of_wraps hw, Option.getD_some]
    have houtcome : (child.caught >>= next).outcome = .ok (.error (.error wrapped)) := by
      rw [Trace.outcome_bind, hcaught]
      exact congrArg Traced.outcome hn
    rw [houtcome]
    change Except.error (Stop.error (wrapped.blame element)) = _
    rw [hblame]
    exact congrArg Except.error (Except.error.inj hstop)

/-- Steps that start with a child which ends in a panic or at the limit end with it. -/
theorem of_stop {child : Traced Value} {stop : Stop} (hc : child.Attributed)
    (hs : child.outcome = .error stop) (hcaught : child.caught.outcome = .error stop)
    {next : Except Error Value → Traced (Except Failure α)} :
    (child.caught >>= next).Settled := by
  have hsame : (child.caught >>= next).firstFailure? = child.firstFailure? := by
    rw [firstFailure?, events_bind_error hcaught]
    rfl
  have houtcome : (child.caught >>= next).outcome = .error stop := by
    rw [Trace.outcome_bind, hcaught]
    rfl
  cases hf : child.firstFailure? with
  | none =>
    refine of_none (hsame.trans hf) fun stop' hs' => ?_
    obtain rfl : stop = stop' := Except.error.inj (houtcome.symm.trans hs')
    exact hc.unfailed hf stop hs
  | some found =>
    refine of_some (hsame.trans hf) fun element => ?_
    rw [houtcome]
    exact congrArg Except.error (Except.error.inj (hs.symm.trans (hc.failed found.1 found.2 hf)))

end Settled

/-- A failure of the call itself is the last of its events. -/
def endEvents (call : Call) : Outcome (Except Failure α) → List Event
  | .ok (.error failure) => [.failed call failure]
  | _ => []

theorem events_ofCall (call : Call) (steps : Traced (Except Failure α)) :
    (ofCall call steps).events =
      .started call :: (steps.events ++ endEvents call steps.outcome) := by
  obtain ⟨events, outcome⟩ := steps
  rcases outcome with stop | failure | a
  · change .started call :: events = _
    rw [endEvents, List.append_nil]
    · simp
  · rfl
  · rfl

theorem firstFailure?_ofCall (call : Call) (steps : Traced (Except Failure α)) :
    (ofCall call steps).firstFailure? = steps.firstFailure?.or
      ((endEvents call steps.outcome).findSome? Event.failure?) := by
  rw [firstFailure?, events_ofCall, List.findSome?_cons, Event.failure?,
    List.findSome?_append, firstFailure?]

theorem Attributed.ofCall {call : Call} {steps : Traced (Except Failure α)}
    (h : call.PassesOn plugins → steps.PassesOn plugins → steps.Settled)
    (hp : (Traced.ofCall call steps).PassesOn plugins) : (Traced.ofCall call steps).Attributed := by
  have hsettled : steps.Settled := by
    refine h (hp call ?_) fun inner hm => hp inner ?_
    · rw [events_ofCall]
      exact List.mem_cons_self
    · rw [events_ofCall]
      exact List.mem_cons_of_mem _ (List.mem_append_left _ hm)
  have houtcome := Trace.outcome_ofCall call steps
  have hfirst := firstFailure?_ofCall call steps
  cases hf : steps.firstFailure? with
  | some found =>
    rw [hf, Option.some_or] at hfirst
    exact .of_some hfirst (houtcome.trans (hsettled.failed found.1 found.2 hf call.element.name))
  | none =>
    rw [hf, Option.none_or] at hfirst
    rcases ho : steps.outcome with stop | failure | a
    all_goals rw [ho] at hfirst houtcome
    · obtain rfl := hsettled.unfailed hf stop ho
      refine .of_none hfirst fun stop hs => ?_
      exact (Except.error.inj (houtcome.symm.trans hs)).symm
    · exact .of_some hfirst houtcome
    · refine .of_none hfirst fun stop hs => ?_
      cases houtcome.symm.trans hs

end Traced

/-! ## Whole runs -/

namespace Trace

variable {α : Type} {plugins : Plugins}

/-- A script that passes on errors is settled if the children it asks for are. -/
theorem settled_script {answer : Value → Value → Traced Value}
    (h : ∀ child env, (answer child env).PassesOn plugins → (answer child env).Attributed)
    {steps : Script α} (hs : steps.PassesOn) :
    (script answer steps).PassesOn plugins → (script answer steps).Settled := by
  induction hs with
  | done result => exact fun _ => .pure _
  | fail failure => exact fun _ => .pure _
  | @renderChild child env next _ herror ih =>
    intro hp
    have hchild : (answer child env).Attributed := h child env hp.of_bind
    cases ho : (answer child env).outcome with
    | ok value =>
      have hcaught : (answer child env).caught.outcome = .ok (.ok value) := congrArg Outcome.caught ho
      exact .of_value hchild ho (ih value (hp.of_bind_ok hcaught))
    | error stop =>
      cases stop with
      | error error =>
        obtain ⟨wrapped, hw, hn⟩ := herror error
        exact .of_error hchild ho hw (congrArg (script answer) hn)
      | panic message => exact .of_stop hchild ho (congrArg Outcome.caught ho)
      | tooDeep => exact .of_stop hchild ho (congrArg Outcome.caught ho)

theorem attributed_resolveItems {env : Value} {items : List Node}
    (h : ∀ item ∈ items, (resolve plugins env item).PassesOn plugins →
      (resolve plugins env item).Attributed) :
    (resolveItems plugins env items).PassesOn plugins →
      (resolveItems plugins env items).Attributed := by
  induction items with
  | nil => exact fun _ => .pure _
  | cons item rest ih =>
    have hrest := ih fun other hm => h other (List.mem_cons_of_mem _ hm)
    exact .bind (h item List.mem_cons_self) fun _ _ => .bind hrest fun _ _ _ => .pure _

theorem attributed_resolveFields {env : Value} {fields : List (String × Node)}
    (h : ∀ field ∈ fields, (resolve plugins env field.2).PassesOn plugins →
      (resolve plugins env field.2).Attributed) :
    (resolveFields plugins env fields).PassesOn plugins →
      (resolveFields plugins env fields).Attributed := by
  induction fields with
  | nil => exact fun _ => .pure _
  | cons field rest ih =>
    have hrest := ih fun other hm => h other (List.mem_cons_of_mem _ hm)
    exact .bind (h field List.mem_cons_self) fun _ _ => .bind hrest fun _ _ _ => .pure _

/-- A helper in a config is a call like any other, however deep it is. -/
theorem attributed_resolve (env : Value) (node : Node) :
    (resolve plugins env node).PassesOn plugins → (resolve plugins env node).Attributed := by
  induction node using Node.byParts with
  | bind reference => exact fun _ => .pure _
  | invocation role name plugin config declaration ih =>
    cases role with
    | component => exact fun _ => .pure _
    | helper => exact .bind ih fun _ _ => .ofCall fun _ _ => .pure _
  | map fields ih => exact .bind (attributed_resolveFields ih) fun _ _ _ => .pure _
  | sequence items ih => exact .bind (attributed_resolveItems ih) fun _ _ _ => .pure _
  | scalar value => exact fun _ => .pure _

theorem attributed_component (escape : Bool) (limit : Nat) (used : Invocation) (env : Value) :
    (component plugins escape limit used env).PassesOn plugins →
      (component plugins escape limit used env).Attributed := by
  -- one level hands up what the levels below it end with, whatever they are called
  induction limit generalizing used env with
  | zero => exact fun _ => .of_none rfl fun stop h => (Except.error.inj h).symm
  | succ limit ih =>
    have hanswer : ∀ child env,
        (answer (component plugins escape limit) child env).PassesOn plugins →
          (answer (component plugins escape limit) child env).Attributed := by
      intro child env
      cases child with
      | element nested => exact ih nested env
      | _ => exact fun _ => .pure _
    have hconfig : (prepareConfig plugins escape used.config env).PassesOn plugins →
        (prepareConfig plugins escape used.config env).Attributed :=
      .bind (attributed_resolve env used.config) fun _ _ _ => .pure _
    exact .bind hconfig fun config _ => .ofCall fun hcall => settled_script hanswer (hcall rfl)

end Trace

/-- The trace of a rendering of the tree. -/
def Renderer.trace (renderer : Renderer) (plugins : Plugins) (limit : Nat) (env : Value) :
    Traced Value :=
  Trace.component plugins renderer.escapeHtml limit renderer.root env

/-- Errors keep their origin at any depth: if every component that is called passes on
the errors of its children, a rendering fails exactly when some call does, and with what
the first of these calls failed with. The category, the name and the message are those
of its element, whatever encloses it. -/
theorem Ui.render_fails_iff_call_fails {ui : Ui} {renderer : Renderer}
    (hrenderer : ui.renderer = some renderer) (limit : Nat) (env : Value)
    (hpass : (renderer.trace ui.plugins limit env).PassesOn ui.plugins) :
    (renderer.trace ui.plugins limit env).outcome.guarded = ui.render limit env ∧
    ∀ error, ui.render limit env = .error (.error error) ↔
      ∃ call failure, (renderer.trace ui.plugins limit env).firstFailure? = some (call, failure) ∧
        error = failure.report call.element.name := by
  have hrender : (renderer.trace ui.plugins limit env).outcome.guarded = ui.render limit env := by
    rw [Renderer.trace, Trace.outcome_component, Ui.render, hrenderer]
    rfl
  have hattributed : (renderer.trace ui.plugins limit env).Attributed :=
    Trace.attributed_component _ _ _ _ hpass
  refine ⟨hrender, fun error => ?_⟩
  rw [← hrender]
  constructor
  · intro herror
    cases hf : (renderer.trace ui.plugins limit env).firstFailure? with
    | some found =>
      rw [hattributed.failed found.1 found.2 hf, Outcome.guarded_ofFailure] at herror
      cases herror
      exact ⟨found.1, found.2, rfl, rfl⟩
    | none =>
      cases ho : (renderer.trace ui.plugins limit env).outcome with
      | ok value =>
        rw [ho] at herror
        cases herror
      | error stop =>
        obtain rfl := hattributed.unfailed hf stop ho
        rw [ho] at herror
        cases herror
  · intro hcall
    obtain ⟨call, failure, hf, rfl⟩ := hcall
    rw [hattributed.failed call failure hf, Outcome.guarded_ofFailure]

/-- A remark around a child around a text whose helper fails. -/
def notice : Ui where
  plugins := .ofList [.component (Fixture.handling Fixture.remarked), .component Fixture.child,
    .component Reference.text, .helper fun config _ => .error (Fixture.failure config)]
  registry := .empty
  renderer := some { root := ⟨"remark", ⟨0⟩, .map
    [("message", .scalar (.string "while rendering")),
     ("child", .invocation .component "child" ⟨1⟩ (.map
       [("child", .invocation .component "text" ⟨2⟩ (.map
         [("content", .sequence [.invocation .helper "lookup" ⟨3⟩ (.map
           [("message", .bind ⟨"reason", .null⟩)]) .null])]) .null)]) .null)], .null⟩ }

theorem notice_passesOn (plugin : PluginId) (config env : Value) :
    ((notice.plugins plugin).run config env true).PassesOn := by
  match plugin with
  | ⟨0⟩ =>
    exact .renderChild (fun value => .done value) fun error => ⟨_, .context _ .raised, rfl⟩
  | ⟨1⟩ => exact .render _ _
  | ⟨2⟩ => exact .done _
  | ⟨3⟩ => exact .fail _
  | ⟨_ + 4⟩ => exact .done _

/-- Neither the remark nor the child changes what is reported. -/
theorem notice_reports_helper :
    notice.render 9 (.ofJson (.object [("reason", .string "no data")])) =
      .error (.error (.rendering "lookup" "no data")) := by
  have horigin := Ui.render_fails_iff_call_fails (show notice.renderer = some _ from rfl) 9
    (.ofJson (.object [("reason", .string "no data")]))
    (fun call _ _ => notice_passesOn call.element.plugin call.config call.env)
  exact (horigin.2 _).2 ⟨_, _, rfl, rfl⟩

end DeclaredUi
