import DeclaredUi.Proofs.Render.Origin
import DeclaredUi.Proofs.Render.Resolve

/-! Renderings without failures. Reliable plug-ins do not fail as long as their children
come to values, and have only elements rendered whose plug-ins are reliable, too. Then no
call fails in a rendering, neither that of a component nor that of a helper in a config:
the rendering comes to a value, or else it reaches the limit of nesting. -/

namespace DeclaredUi

/-- The script comes to a result in `R` as long as its children come to values, and the
components it hands on are in `p` as long as those in these values are. -/
inductive Script.Succeeds {α : Type} (p : Invocation → Prop) (R : α → Prop) : Script α → Prop
  | done {result : α} : R result → Succeeds p R (.done result)
  | renderChild {child env : Value} {next : Except Error Value → Script α} :
      child.EveryElement p → env.EveryElement p →
      (∀ value, value.EveryElement p → Succeeds p R (next (.ok value))) →
      Succeeds p R (.renderChild child env next)

namespace Script.Succeeds

variable {α β : Type} {p : Invocation → Prop} {Q : α → Prop} {R : β → Prop}

theorem bind {script : Script α} {next : α → Script β} (h : script.Succeeds p Q)
    (hn : ∀ a, Q a → (next a).Succeeds p R) : (script >>= next).Succeeds p R := by
  induction h with
  | done hq => exact hn _ hq
  | renderChild hc he _ ih => exact .renderChild hc he ih

theorem render {child env : Value} (hc : child.EveryElement p) (he : env.EveryElement p) :
    (Script.render child env).Succeeds p (Value.EveryElement p) :=
  .renderChild hc he fun _ hv => .done hv

/-- A script that is run by itself gets its children back, so it succeeds, too. -/
theorem detached {script : Script α} (h : script.Succeeds p Q) :
    ∃ result, script.detached = .ok result ∧ Q result := by
  induction h with
  | done hq => exact ⟨_, rfl, hq⟩
  | renderChild hc _ _ ih => exact ih _ hc

end Script.Succeeds

namespace Traced

variable {α β : Type} {Q : α → Prop} {R : β → Prop}

/-- No call fails, and the outcome is a value in `R` or the limit. -/
structure Unfailing (R : α → Prop) (trace : Traced α) : Prop where
  events : ∀ call failure, .failed call failure ∉ trace.events
  outcome : trace.outcome = .error .tooDeep ∨ ∃ a, trace.outcome = .ok a ∧ R a

namespace Unfailing

theorem pure {a : α} (h : Q a) : (Pure.pure a : Traced α).Unfailing Q where
  events _ _ := List.not_mem_nil
  outcome := .inr ⟨a, rfl, h⟩

theorem bind {trace : Traced α} {next : α → Traced β} (h : trace.Unfailing Q)
    (hn : ∀ a, Q a → (next a).Unfailing R) : (trace >>= next).Unfailing R := by
  have houtcome := Trace.outcome_bind trace next
  rcases h.outcome with ho | ⟨a, ho, ha⟩
  · rw [ho] at houtcome
    refine ⟨?_, .inl houtcome⟩
    rw [events_bind_error ho]
    exact h.events
  · have hnext := hn a ha
    rw [ho] at houtcome
    refine ⟨fun call failure hm => ?_, ?_⟩
    · rw [events_bind_ok ho] at hm
      exact (List.mem_append.1 hm).elim (h.events call failure) (hnext.events call failure)
    · rw [houtcome]
      exact hnext.outcome

/-- There is no error to catch. -/
theorem caught {trace : Traced α} (h : trace.Unfailing Q) :
    trace.caught.Unfailing fun answered => ∃ a, answered = .ok a ∧ Q a where
  events := h.events
  outcome := by
    rw [Trace.outcome_caught]
    rcases h.outcome with ho | ⟨a, ho, ha⟩
    · exact .inl (congrArg Outcome.caught ho)
    · exact .inr ⟨.ok a, congrArg Outcome.caught ho, a, rfl, ha⟩

/-- A call does not fail if it ends well and no call in it fails. -/
theorem ofCall {call : Call} {steps : Traced (Except Failure α)}
    (h : steps.Unfailing fun ending => ∃ a, ending = .ok a ∧ Q a) :
    (Traced.ofCall call steps).Unfailing Q := by
  have hstarted : (⟨[.started call], .ok ()⟩ : Traced Unit).Unfailing fun _ => True :=
    ⟨by simp, .inr ⟨(), rfl, trivial⟩⟩
  refine hstarted.bind fun _ _ => h.bind ?_
  rintro _ ⟨a, rfl, ha⟩
  exact .pure ha

end Unfailing

end Traced

/-- The plug-ins of the elements in `p` succeed, with or without children to render, and the
elements in the configs of these elements are in `p` again. -/
structure Plugins.Reliable (plugins : Plugins) (p : Invocation → Prop) : Prop where
  run : ∀ used, p used → ∀ config env children, config.EveryElement p → env.EveryElement p →
    ((plugins used.plugin).run config env children).Succeeds p (Value.EveryElement p)
  config : ∀ used, p used → ∀ role inner, .invocation role inner ∈ used.config.surface → p inner

namespace Trace

variable {α : Type} {plugins : Plugins} {p : Invocation → Prop} {env : Value}

theorem unfailing_script {answer : Value → Value → Traced Value} {R : α → Prop}
    {steps : Script α} (hs : steps.Succeeds p R)
    (h : ∀ child env, child.EveryElement p → env.EveryElement p →
      (answer child env).Unfailing (Value.EveryElement p)) :
    (script answer steps).Unfailing fun ending => ∃ result, ending = .ok result ∧ R result := by
  induction hs with
  | done hr => exact .pure ⟨_, rfl, hr⟩
  | renderChild hc he _ ih =>
    refine (h _ _ hc he).caught.bind ?_
    rintro _ ⟨value, rfl, hv⟩
    exact ih value hv

theorem unfailing_resolveItems {items : List Node}
    (h : ∀ item ∈ items, (resolve plugins env item).Unfailing (Value.EveryElement p)) :
    (resolveItems plugins env items).Unfailing fun values =>
      ∀ value ∈ values, value.EveryElement p := by
  induction items with
  | nil => exact .pure (List.forall_mem_nil _)
  | cons item rest ih =>
    have hrest := ih fun other hm => h other (List.mem_cons_of_mem _ hm)
    exact (h item List.mem_cons_self).bind fun _ hvalue =>
      hrest.bind fun _ hvalues => .pure (List.forall_mem_cons.2 ⟨hvalue, hvalues⟩)

theorem unfailing_resolveFields {fields : List (String × Node)}
    (h : ∀ field ∈ fields, (resolve plugins env field.2).Unfailing (Value.EveryElement p)) :
    (resolveFields plugins env fields).Unfailing fun values =>
      ∀ value ∈ values, value.2.EveryElement p := by
  induction fields with
  | nil => exact .pure (List.forall_mem_nil _)
  | cons field rest ih =>
    have hrest := ih fun other hm => h other (List.mem_cons_of_mem _ hm)
    exact (h field List.mem_cons_self).bind fun _ hvalue =>
      hrest.bind fun _ hvalues => .pure (List.forall_mem_cons.2 ⟨hvalue, hvalues⟩)

/-- Binds find something or `null`, and the helpers of a config do not fail. -/
theorem unfailing_resolve (hplugins : plugins.Reliable p) (henv : env.EveryElement p) {node : Node}
    (hnode : ∀ role used, .invocation role used ∈ node.surface → p used) :
    (resolve plugins env node).Unfailing (Value.EveryElement p) := by
  induction node using Node.byParts with
  | bind reference => exact .pure (henv.evaluate reference)
  | invocation role name plugin config declaration ih =>
    have hused : p ⟨name, plugin, config, declaration⟩ := by
      refine hnode role _ ?_
      cases role <;> exact List.mem_cons_self
    cases role with
    | component => exact .pure (.element hused)
    | helper =>
      refine (ih fun role used hm => hnode role used (List.mem_cons_of_mem _ hm)).bind ?_
      intro resolved hresolved
      obtain ⟨value, hvalue, hgood⟩ :=
        (hplugins.run _ hused resolved env false hresolved henv).detached
      exact .ofCall (.pure ⟨value, hvalue, hgood⟩)
  | map fields ih =>
    refine (unfailing_resolveFields fun field hm => ?_).bind fun _ h => .pure (.object h)
    exact ih field hm fun role used h => hnode role used (Node.surface_subset_map hm h)
  | sequence items ih =>
    refine (unfailing_resolveItems fun item hm => ?_).bind fun _ h => .pure (.array h)
    exact ih item hm fun role used h => hnode role used (Node.surface_subset_sequence hm h)
  | scalar json => exact .pure (Value.everyElement_ofJson p json)

theorem unfailing_component (hplugins : plugins.Reliable p) (escape : Bool) (limit : Nat)
    {used : Invocation} (hused : p used) (henv : env.EveryElement p) :
    (component plugins escape limit used env).Unfailing (Value.EveryElement p) := by
  -- what a component has rendered is in `p` with its environment, one level less to go
  induction limit generalizing used env with
  | zero => exact ⟨fun _ _ => List.not_mem_nil, .inl rfl⟩
  | succ limit ih =>
    have hanswer : ∀ child env, child.EveryElement p → env.EveryElement p →
        (answer (component plugins escape limit) child env).Unfailing (Value.EveryElement p) := by
      intro child env hchild henv
      cases child with
      | element nested => exact ih hchild.of_element henv
      | _ => exact .pure hchild
    have hconfig : (prepareConfig plugins escape used.config env).Unfailing
        (Value.EveryElement p) :=
      (unfailing_resolve hplugins henv (hplugins.config used hused)).bind
        fun _ h => .pure (Render.everyElement_prepare h)
    exact hconfig.bind fun config h =>
      .ofCall (unfailing_script (hplugins.run used hused config env true h henv) hanswer)

end Trace

end DeclaredUi
