import DeclaredUi.Proofs.Render.Record

/-! Rendering with a trace of what becomes of the calls. The renderer is run step by
step as it is; the start of each call of a plug-in is an event, and so is its end if
the call fails. A panic or the limit of nesting leaves the calls around it without an
end. -/

namespace DeclaredUi

inductive Event where
  | started (call : Call)
  | failed (call : Call) (failure : Failure)

def Event.failure? : Event → Option (Call × Failure)
  | .started _ => none
  | .failed call failure => some (call, failure)

/-- An outcome with the events that led to it, in order. -/
structure Traced (α : Type) where
  events : List Event
  outcome : Outcome α

namespace Traced

variable {α β : Type}

/-- An outcome that no event led to. -/
def quiet (outcome : Outcome α) : Traced α := ⟨[], outcome⟩

def bind (trace : Traced α) (next : α → Traced β) : Traced β :=
  match trace.outcome with
  | .ok a => ⟨trace.events ++ (next a).events, (next a).outcome⟩
  | .error stop => ⟨trace.events, .error stop⟩

instance : Monad Traced where
  pure a := quiet (.ok a)
  bind := bind

def caught (trace : Traced α) : Traced (Except Error α) := ⟨trace.events, trace.outcome.caught⟩

/-- The end of a call. A failure stops what goes on around the call. -/
def ended (call : Call) : Except Failure α → Traced α
  | .ok result => pure result
  | .error failure =>
    ⟨[.failed call failure], .error (.ofFailure call.element.name failure)⟩

/-- A call from its start to its end, with what goes on in it. -/
def ofCall (call : Call) (steps : Traced (Except Failure α)) : Traced α := do
  (⟨[.started call], .ok ()⟩ : Traced Unit)
  ended call (← steps)

/-- The first call to fail. -/
def firstFailure? (trace : Traced α) : Option (Call × Failure) :=
  trace.events.findSome? Event.failure?

end Traced

/-! ## The renderer with a trace -/

namespace Trace

def helper (plugins : Plugins) (used : Invocation) (config env : Value) : Traced Value :=
  .ofCall ⟨.nested, used, config, env⟩ (pure ((plugins used.plugin).call config env))

mutual

def resolve (plugins : Plugins) (env : Value) : Node → Traced Value
  | .bind bind => pure (bind.evaluate env)
  | .invocation .component name plugin config declaration =>
    pure (.element ⟨name, plugin, config, declaration⟩)
  | .invocation .helper name plugin config declaration => do
    helper plugins ⟨name, plugin, config, declaration⟩ (← resolve plugins env config) env
  | .map fields => return .object (← resolveFields plugins env fields)
  | .sequence items => return .array (← resolveItems plugins env items)
  | .scalar value => pure (.ofJson value)

def resolveItems (plugins : Plugins) (env : Value) : List Node → Traced (List Value)
  | [] => pure []
  | item :: rest => do
    let value ← resolve plugins env item
    return value :: (← resolveItems plugins env rest)

def resolveFields (plugins : Plugins) (env : Value) :
    List (String × Node) → Traced (List (String × Value))
  | [] => pure []
  | (key, node) :: rest => do
    let value ← resolve plugins env node
    return (key, value) :: (← resolveFields plugins env rest)

end

def prepareConfig (plugins : Plugins) (escape : Bool) (config : Node) (env : Value) :
    Traced Value := do
  return Render.prepare escape (← resolve plugins env config)

/-- How a script ends, by itself or through the children it asks for. -/
def script {α : Type} (answer : Value → Value → Traced Value) :
    Script α → Traced (Except Failure α)
  | .done result => pure (.ok result)
  | .fail failure => pure (.error failure)
  | .renderChild child env next => do script answer (next (← (answer child env).caught))

def answer (render : Invocation → Value → Traced Value) (child env : Value) : Traced Value :=
  match child with
  | .element nested => render nested env
  | other => pure other

def component (plugins : Plugins) (escape : Bool) : Nat → Invocation → Value → Traced Value
  | 0, _, _ => .quiet (.error .tooDeep)
  | limit + 1, used, env => do
    let config ← prepareConfig plugins escape used.config env
    .ofCall ⟨.component, used, config, env⟩ (script (answer (component plugins escape limit))
      ((plugins used.plugin).run config env true))

/-! ## The outcome is that of the rendering -/

section

variable {α β : Type}

@[simp] theorem outcome_bind (trace : Traced α) (next : α → Traced β) :
    (trace >>= next).outcome = trace.outcome >>= fun a => (next a).outcome := by
  change (trace.bind next).outcome = _
  unfold Traced.bind
  cases trace.outcome <;> rfl

@[simp] theorem outcome_caught (trace : Traced α) :
    trace.caught.outcome = trace.outcome.caught := rfl

theorem outcome_ended (call : Call) (ending : Except Failure α) :
    (Traced.ended call ending).outcome =
      ending.mapError (Stop.ofFailure call.element.name) := by
  cases ending <;> rfl

theorem outcome_ofCall (call : Call) (steps : Traced (Except Failure α)) :
    (Traced.ofCall call steps).outcome = steps.outcome >>= fun ending =>
      ending.mapError (Stop.ofFailure call.element.name) := by
  have hstart : ∀ next : Unit → Outcome α, (Except.ok () : Outcome Unit) >>= next = next () :=
    fun _ => rfl
  rw [Traced.ofCall, outcome_bind, hstart, outcome_bind]
  simp only [outcome_ended]

variable {plugins : Plugins} {env : Value}

theorem outcome_resolveItems {items : List Node}
    (h : ∀ item ∈ items, (resolve plugins env item).outcome = Render.resolve plugins env item) :
    (resolveItems plugins env items).outcome = Render.resolveItems plugins env items := by
  induction items with
  | nil => rfl
  | cons item rest ih =>
    have hrest := ih fun other hm => h other (List.mem_cons_of_mem _ hm)
    simp only [resolveItems, Render.resolveItems, outcome_bind, h item List.mem_cons_self, hrest]
    rfl

theorem outcome_resolveFields {fields : List (String × Node)}
    (h : ∀ field ∈ fields,
      (resolve plugins env field.2).outcome = Render.resolve plugins env field.2) :
    (resolveFields plugins env fields).outcome = Render.resolveFields plugins env fields := by
  induction fields with
  | nil => rfl
  | cons field rest ih =>
    have hrest := ih fun other hm => h other (List.mem_cons_of_mem _ hm)
    simp only [resolveFields, Render.resolveFields, outcome_bind, h field List.mem_cons_self,
      hrest]
    rfl

theorem outcome_resolve (env : Value) (node : Node) :
    (resolve plugins env node).outcome = Render.resolve plugins env node := by
  induction node using Node.byParts with
  | bind reference => rfl
  | invocation role name plugin config declaration ih =>
    cases role with
    | component => rfl
    | helper =>
      simp only [resolve, Render.resolve, outcome_bind, ih, helper, outcome_ofCall]
      rfl
  | map fields ih =>
    simp only [resolve, Render.resolve, outcome_bind, outcome_resolveFields ih]
    rfl
  | sequence items ih =>
    simp only [resolve, Render.resolve, outcome_bind, outcome_resolveItems ih]
    rfl
  | scalar value => rfl

theorem outcome_script {answer : Value → Value → Traced Value}
    {rendered : Value → Value → Outcome Value}
    (h : ∀ child env, (answer child env).outcome = rendered child env) (element : String)
    (steps : Script α) :
    ((script answer steps).outcome >>= fun ending => ending.mapError (Stop.ofFailure element)) =
      steps.run element rendered := by
  induction steps with
  | done result => rfl
  | fail failure => rfl
  | renderChild child env next ih =>
    simp only [Script.run_renderChild, script, outcome_bind, outcome_caught, h, bind_assoc, ih]

/-- The trace of a component is that of its rendering. -/
theorem outcome_component (escape : Bool) (limit : Nat) (used : Invocation) (env : Value) :
    (component plugins escape limit used env).outcome =
      Render.component plugins escape limit used env := by
  induction limit generalizing used env with
  | zero => rfl
  | succ limit ih =>
    have hanswer : ∀ child env, (answer (component plugins escape limit) child env).outcome =
        match child with
        | .element nested => Render.component plugins escape limit nested env
        | other => .ok other := by
      intro child env
      cases child with
      | element nested => exact ih nested env
      | _ => rfl
    have hconfig : (prepareConfig plugins escape used.config env).outcome =
        Render.prepareConfig plugins escape used.config env := by
      simp only [prepareConfig, outcome_bind, outcome_resolve]
      rfl
    simp only [component, outcome_bind, hconfig, outcome_ofCall, outcome_script hanswer]
    rfl

end

end Trace

end DeclaredUi
