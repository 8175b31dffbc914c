import DeclaredUi.Proofs.Parts
import DeclaredUi.Render

/-! Rendering with a record of the calls. The renderer is run step by step as it
is, and each call of a plug-in is written down with what it was given. A record has
the outcome of the rendering, each call in it is given its own config, and no call is
left out: other plug-ins that do the same on the calls in it give the same record. -/

namespace DeclaredUi

/-- What a script gets to see of an outcome: values and errors, but neither panics nor
the limit. -/
def Outcome.caught {α : Type} : Outcome α → Outcome (Except Error α)
  | .ok value => .ok (.ok value)
  | .error (.error error) => .ok (.error error)
  | .error (.panic message) => .error (.panic message)
  | .error .tooDeep => .error .tooDeep

theorem Script.run_renderChild {α : Type} (element : String)
    (answer : Value → Value → Outcome Value) (child env : Value)
    (next : Except Error Value → Script α) :
    (Script.renderChild child env next).run element answer =
      (answer child env).caught >>= fun answered => (next answered).run element answer := by
  rw [Script.run]
  cases answer child env with
  | ok value => rfl
  | error stop => cases stop <;> rfl

/-- What a plug-in is called for. -/
inductive Occasion where
  /-- To render a component. -/
  | component
  /-- To compute a value for a config, as one of its helpers. -/
  | nested
  /-- To compute a value by itself. -/
  | direct
deriving DecidableEq, Repr

/-- A call of the plug-in of an element. -/
structure Call where
  occasion : Occasion
  element : Invocation
  config : Value
  env : Value

/-- Other plug-ins do the same on a call. -/
def Call.Agrees (plugins others : Plugins) (call : Call) : Prop :=
  match call.occasion with
  | .component => (others call.element.plugin).run call.config call.env true =
      (plugins call.element.plugin).run call.config call.env true
  | .nested | .direct => (others call.element.plugin).call call.config call.env =
      (plugins call.element.plugin).call call.config call.env

/-- A call is given what its occasion asks for: a helper in the config of another
element its own config as it was resolved, any other plug-in its prepared config. -/
def Call.Prepared (plugins : Plugins) (escape : Bool) (call : Call) : Prop :=
  match call.occasion with
  | .nested => Render.resolve plugins call.env call.element.config = .ok call.config
  | .component | .direct =>
    Render.prepareConfig plugins escape call.element.config call.env = .ok call.config

/-- An outcome with the calls that led to it, in order. -/
structure Recorded (α : Type) where
  calls : List Call
  outcome : Outcome α

namespace Recorded

variable {α β : Type}

/-- An outcome that no call led to. -/
def quiet (outcome : Outcome α) : Recorded α := ⟨[], outcome⟩

/-- Puts earlier calls in front. -/
def after (earlier : List Call) (record : Recorded α) : Recorded α :=
  ⟨earlier ++ record.calls, record.outcome⟩

def caught (record : Recorded α) : Recorded (Except Error α) :=
  ⟨record.calls, record.outcome.caught⟩

def bind (record : Recorded α) (next : α → Recorded β) : Recorded β :=
  match record.outcome with
  | .ok a => (next a).after record.calls
  | .error stop => ⟨record.calls, .error stop⟩

instance : Monad Recorded where
  pure a := quiet (.ok a)
  bind := bind

/-- Every call in the record satisfies `P`. -/
def All (P : Call → Prop) (record : Recorded α) : Prop := ∀ call ∈ record.calls, P call

end Recorded

/-! ## The renderer with a record -/

namespace Record

def helper (plugins : Plugins) (occasion : Occasion) (used : Invocation) (config env : Value) :
    Recorded Value :=
  (Recorded.quiet (Render.callHelper plugins used.name used.plugin config env)).after
    [⟨occasion, used, config, env⟩]

mutual

def resolve (plugins : Plugins) (env : Value) : Node → Recorded Value
  | .bind bind => pure (bind.evaluate env)
  | .invocation .component name plugin config declaration =>
    pure (.element ⟨name, plugin, config, declaration⟩)
  | .invocation .helper name plugin config declaration => do
    helper plugins .nested ⟨name, plugin, config, declaration⟩ (← resolve plugins env config) env
  | .map fields => return .object (← resolveFields plugins env fields)
  | .sequence items => return .array (← resolveItems plugins env items)
  | .scalar value => pure (.ofJson value)

def resolveItems (plugins : Plugins) (env : Value) : List Node → Recorded (List Value)
  | [] => pure []
  | item :: rest => do
    let value ← resolve plugins env item
    return value :: (← resolveItems plugins env rest)

def resolveFields (plugins : Plugins) (env : Value) :
    List (String × Node) → Recorded (List (String × Value))
  | [] => pure []
  | (key, node) :: rest => do
    let value ← resolve plugins env node
    return (key, value) :: (← resolveFields plugins env rest)

end

def prepareConfig (plugins : Plugins) (escape : Bool) (config : Node) (env : Value) :
    Recorded Value := do
  return Render.prepare escape (← resolve plugins env config)

def script {α : Type} (element : String) (answer : Value → Value → Recorded Value) :
    Script α → Recorded α
  | .done result => pure result
  | .fail failure => .quiet (.error (.ofFailure element failure))
  | .renderChild child env next => do
    script element answer (next (← (answer child env).caught))

/-- A child as it is rendered: a component in turn, everything else as it is. -/
def answer (render : Invocation → Value → Recorded Value) (child env : Value) : Recorded Value :=
  match child with
  | .element nested => render nested env
  | other => pure other

def component (plugins : Plugins) (escape : Bool) : Nat → Invocation → Value → Recorded Value
  | 0, _, _ => .quiet (.error .tooDeep)
  | limit + 1, used, env => do
    let config ← prepareConfig plugins escape used.config env
    (script used.name (answer (component plugins escape limit))
      ((plugins used.plugin).run config env true)).after [⟨.component, used, config, env⟩]

def element (plugins : Plugins) (escape : Bool) (limit : Nat) (node : Node) (env : Value) :
    Recorded Value :=
  match node with
  | .invocation .component name plugin config declaration =>
    component plugins escape limit ⟨name, plugin, config, declaration⟩ env
  | .invocation .helper name plugin config declaration => do
    helper plugins .direct ⟨name, plugin, config, declaration⟩
      (← prepareConfig plugins escape config env) env
  | other => resolve plugins env other

end Record

/-! ## The record of a rendering -/

/-- `record` has the outcome, each call in it is given what it should be, and other
plug-ins that do the same on these calls, which give `other`, have the same record. -/
structure Recorded.Faithful {α : Type} (plugins others : Plugins) (escape : Bool)
    (record other : Recorded α) (outcome : Outcome α) : Prop where
  outcome : record.outcome = outcome
  prepared : record.All (Call.Prepared plugins escape)
  complete : record.All (Call.Agrees plugins others) → other = record

namespace Recorded.Faithful

variable {α β : Type} {plugins others : Plugins} {escape : Bool} {record other : Recorded α}
  {o : Outcome α}

theorem quiet (o : Outcome α) : Faithful plugins others escape (quiet o) (quiet o) o where
  outcome := rfl
  prepared _ hm := by cases hm
  complete _ := rfl

theorem bind {next next' : α → Recorded β} {f : α → Outcome β}
    (h : Faithful plugins others escape record other o)
    (hf : ∀ a, o = .ok a → Faithful plugins others escape (next a) (next' a) (f a)) :
    Faithful plugins others escape (record >>= next) (other >>= next') (o >>= f) := by
  obtain ⟨calls, outcome⟩ := record
  obtain ⟨rfl, hprepared, hcomplete⟩ := h
  cases outcome with
  | error stop =>
    refine ⟨rfl, hprepared, fun hagree => ?_⟩
    rw [hcomplete hagree]
    rfl
  | ok a =>
    obtain ⟨houtcome, hrest, hnext⟩ := hf a rfl
    refine ⟨houtcome, List.forall_mem_append.2 ⟨hprepared, hrest⟩, fun hagree => ?_⟩
    obtain ⟨hearlier, hlater⟩ := List.forall_mem_append.1 hagree
    rw [hcomplete hearlier]
    change (next' a).after calls = (next a).after calls
    rw [hnext hlater]

/-- A call and what comes of it; `between` is what comes of it as long as the other
plug-ins do the same on this call. -/
theorem after {call : Call} {between : Recorded α} (hp : call.Prepared plugins escape)
    (h : Faithful plugins others escape record between o)
    (hcall : call.Agrees plugins others → other = between) :
    Faithful plugins others escape (record.after [call]) (other.after [call]) o := by
  refine ⟨h.outcome, List.forall_mem_cons.2 ⟨hp, h.prepared⟩, fun hagree => ?_⟩
  obtain ⟨hfirst, hlater⟩ := List.forall_mem_cons.1 hagree
  rw [hcall hfirst, h.complete hlater]

theorem caught (h : Faithful plugins others escape record other o) :
    Faithful plugins others escape record.caught other.caught o.caught where
  outcome := congrArg Outcome.caught h.outcome
  prepared := h.prepared
  complete hagree := congrArg Recorded.caught (h.complete hagree)

end Recorded.Faithful

namespace Record

variable {plugins others : Plugins} {escape : Bool}

theorem helper_faithful {occasion : Occasion} (hh : occasion ≠ .component) {used : Invocation}
    {config env : Value} (hp : (Call.mk occasion used config env).Prepared plugins escape) :
    (helper plugins occasion used config env).Faithful plugins others escape
      (helper others occasion used config env)
      (Render.callHelper plugins used.name used.plugin config env) := by
  refine .after hp (.quiet _) fun hcall => ?_
  have hsame : (others used.plugin).call config env = (plugins used.plugin).call config env := by
    cases occasion with
    | component => exact absurd rfl hh
    | nested => exact hcall
    | direct => exact hcall
  rw [Render.callHelper, Render.callHelper, hsame]

theorem resolveItems_faithful {env : Value} {items : List Node}
    (h : ∀ item ∈ items, (resolve plugins env item).Faithful plugins others escape
      (resolve others env item) (Render.resolve plugins env item)) :
    (resolveItems plugins env items).Faithful plugins others escape
      (resolveItems others env items) (Render.resolveItems plugins env items) := by
  induction items with
  | nil => exact .quiet _
  | cons item rest ih =>
    have hrest := ih fun other hm => h other (List.mem_cons_of_mem _ hm)
    exact (h item List.mem_cons_self).bind fun _ _ => hrest.bind fun _ _ => .quiet _

theorem resolveFields_faithful {env : Value} {fields : List (String × Node)}
    (h : ∀ field ∈ fields, (resolve plugins env field.2).Faithful plugins others escape
      (resolve others env field.2) (Render.resolve plugins env field.2)) :
    (resolveFields plugins env fields).Faithful plugins others escape
      (resolveFields others env fields) (Render.resolveFields plugins env fields) := by
  induction fields with
  | nil => exact .quiet _
  | cons field rest ih =>
    have hrest := ih fun other hm => h other (List.mem_cons_of_mem _ hm)
    exact (h field List.mem_cons_self).bind fun _ _ => hrest.bind fun _ _ => .quiet _

theorem resolve_faithful (env : Value) (node : Node) :
    (resolve plugins env node).Faithful plugins others escape (resolve others env node)
      (Render.resolve plugins env node) := by
  induction node using Node.byParts with
  | bind reference => exact .quiet _
  | invocation role name plugin config declaration ih =>
    cases role with
    | component => exact .quiet _
    | helper => exact ih.bind fun _ hconfig => helper_faithful (by decide) hconfig
  | map fields ih => exact (resolveFields_faithful ih).bind fun _ _ => .quiet _
  | sequence items ih => exact (resolveItems_faithful ih).bind fun _ _ => .quiet _
  | scalar value => exact .quiet _

theorem prepareConfig_faithful (config : Node) (env : Value) :
    (prepareConfig plugins escape config env).Faithful plugins others escape
      (prepareConfig others escape config env)
      (Render.prepareConfig plugins escape config env) :=
  (resolve_faithful env config).bind fun _ _ => .quiet _

theorem script_faithful {α : Type} (element : String)
    {answer answer' : Value → Value → Recorded Value} {rendered : Value → Value → Outcome Value}
    (h : ∀ child env, (answer child env).Faithful plugins others escape (answer' child env)
      (rendered child env)) (steps : Script α) :
    (script element answer steps).Faithful plugins others escape (script element answer' steps)
      (steps.run element rendered) := by
  induction steps with
  | done result => exact .quiet _
  | fail failure => exact .quiet _
  | renderChild child env next ih =>
    rw [Script.run_renderChild]
    exact (h child env).caught.bind fun answered _ => ih answered

theorem answer_faithful {render render' : Invocation → Value → Recorded Value}
    {rendered : Invocation → Value → Outcome Value}
    (h : ∀ used env, (render used env).Faithful plugins others escape (render' used env)
      (rendered used env)) (child env : Value) :
    (answer render child env).Faithful plugins others escape (answer render' child env)
      (match child with
        | .element nested => rendered nested env
        | other => .ok other) := by
  cases child with
  | element nested => exact h nested env
  | _ => exact .quiet _

/-- The record of a component is that of its rendering. -/
theorem component_faithful (limit : Nat) (used : Invocation) (env : Value) :
    (component plugins escape limit used env).Faithful plugins others escape
      (component others escape limit used env)
      (Render.component plugins escape limit used env) := by
  induction limit generalizing used env with
  | zero => exact .quiet _
  | succ limit ih =>
    refine (prepareConfig_faithful used.config env).bind fun config hconfig => ?_
    have hchild := answer_faithful ih
    exact .after hconfig (script_faithful used.name hchild _) fun hcall =>
      congrArg (script used.name _) hcall

/-- The record of a node is that of its rendering. -/
theorem element_faithful (limit : Nat) (node : Node) (env : Value) :
    (element plugins escape limit node env).Faithful plugins others escape
      (element others escape limit node env) (Render.element plugins escape limit node env) := by
  cases node with
  | invocation role name plugin config declaration =>
    cases role with
    | component => exact component_faithful limit _ env
    | helper =>
      exact (prepareConfig_faithful config env).bind fun _ hconfig =>
        helper_faithful (by decide) hconfig
  | _ => exact resolve_faithful env _

end Record

end DeclaredUi
