import DeclaredUi.Proofs.Node.Preorder
import DeclaredUi.Proofs.Value.Alike
import DeclaredUi.Render

/-! Two renderings side by side. Scripts are related when they ask for related
children in related environments and go on alike with related answers; renderings
of related components are related as soon as one step of them is. The limit of
nesting is the same on both sides, so one of them reaches it exactly when the
other does. -/

namespace DeclaredUi

/-- Both give a value, and the values are related, or both stop for one reason. -/
inductive Outcome.Related {α β : Type} (R : α → β → Prop) : Outcome α → Outcome β → Prop
  | ok {a : α} {b : β} : R a b → Related R (.ok a) (.ok b)
  | error (stop : Stop) : Related R (.error stop) (.error stop)

namespace Outcome.Related

variable {α β γ δ : Type} {R : α → β → Prop} {S : γ → δ → Prop} {x : Outcome α} {y : Outcome β}

theorem bind {f : α → Outcome γ} {g : β → Outcome δ} (h : Related R x y)
    (hf : ∀ a b, R a b → Related S (f a) (g b)) : Related S (x >>= f) (y >>= g) := by
  cases h with
  | ok hab => exact hf _ _ hab
  | error stop => exact .error stop

theorem map {f : α → γ} {g : β → δ} (h : Related R x y) (hf : ∀ a b, R a b → S (f a) (g b)) :
    Related S (x.map f) (y.map g) := by
  cases h with
  | ok hab => exact .ok (hf _ _ hab)
  | error stop => exact .error stop

theorem map_right {T : α → δ → Prop} {g : β → δ} (h : Related R x y)
    (hg : ∀ a b, R a b → T a (g b)) : Related T x (y.map g) := by
  cases h with
  | ok hab => exact .ok (hg _ _ hab)
  | error stop => exact .error stop

theorem imp {T : α → β → Prop} (h : Related R x y) (hi : ∀ a b, R a b → T a b) :
    Related T x y := by
  cases h with
  | ok hab => exact .ok (hi _ _ hab)
  | error stop => exact .error stop

/-- Related values, and which outcomes they come from. -/
theorem attach (h : Related R x y) :
    Related (fun a b => R a b ∧ x = .ok a ∧ y = .ok b) x y := by
  cases h with
  | ok hab => exact .ok ⟨hab, rfl, rfl⟩
  | error stop => exact .error stop

theorem guarded (h : Related R x y) : Related R x.guarded y.guarded := by
  cases h with
  | ok hab => exact .ok hab
  | error stop => cases stop <;> exact .error _

/-- Related by equality is equal. -/
theorem eq {x y : Outcome α} (h : Related (· = ·) x y) : x = y := by
  cases h with
  | ok hab => rw [hab]
  | error stop => rfl

end Outcome.Related

namespace Script

variable {α β γ δ : Type}

/-- Scripts that go the same way: related results, equal failures, and related
requests with scripts that go the same way on related answers. -/
inductive Related (V E : Value → Value → Prop) (R : α → β → Prop) : Script α → Script β → Prop
  | done {a : α} {b : β} : R a b → Related V E R (.done a) (.done b)
  | fail (failure : Failure) : Related V E R (.fail failure) (.fail failure)
  | renderChild {child child' env env' : Value} {next : Except Error Value → Script α}
      {next' : Except Error Value → Script β} :
      V child child' → E env env' →
      (∀ v w, V v w → Related V E R (next (.ok v)) (next' (.ok w))) →
      (∀ error, Related V E R (next (.error error)) (next' (.error error))) →
      Related V E R (.renderChild child env next) (.renderChild child' env' next')

namespace Related

variable {V E : Value → Value → Prop} {R : α → β → Prop} {s : Script α} {t : Script β}

theorem bind {Q : γ → δ → Prop} {f : α → Script γ} {g : β → Script δ} (h : Related V E R s t)
    (hf : ∀ a b, R a b → Related V E Q (f a) (g b)) : Related V E Q (s >>= f) (t >>= g) := by
  induction h with
  | done hab => exact hf _ _ hab
  | fail failure => exact .fail failure
  | renderChild hc he _ _ ihv ihe => exact .renderChild hc he ihv ihe

/-- A child is rendered and its value handed on. -/
theorem render {child child' env env' : Value} (hc : V child child') (he : E env env') :
    Related V E V (Script.render child env) (Script.render child' env') :=
  .renderChild hc he (fun _ _ hvw => .done hvw) fun _ => .fail _

/-- Related scripts run to related outcomes if related children do. -/
theorem run {answer answer' : Value → Value → Outcome Value} (element : String)
    (ha : ∀ v w e f, V v w → E e f → Outcome.Related V (answer v e) (answer' w f))
    (h : Related V E R s t) :
    Outcome.Related R (s.run element answer) (t.run element answer') := by
  induction h with
  | done hab => exact .ok hab
  | fail failure => exact .error _
  | @renderChild child child' env env' next next' hc he _ _ ihv ihe =>
    have hr := ha child child' env env' hc he
    simp only [Script.run]
    generalize answer child env = x, answer' child' env' = y at hr
    cases hr with
    | ok hvw => exact ihv _ _ hvw
    | error stop =>
      cases stop with
      | error error => exact ihe error
      | panic message => exact .error _
      | tooDeep => exact .error _

/-- Without a way to render children every child is its own answer. -/
theorem detached (element : String) (h : Related V E R s t) :
    Outcome.Related R (s.detached.mapError (Stop.ofFailure element))
      (t.detached.mapError (Stop.ofFailure element)) := by
  induction h with
  | done hab => exact .ok hab
  | fail failure => exact .error _
  | renderChild hc _ _ _ ihv _ => exact ihv _ _ hc

end Related

end Script

/-- The same component twice, with `p` true of all its elements. -/
def Invocation.Same (p : Element → Prop) (a b : Invocation) : Prop :=
  a = b ∧ ∀ element ∈ (a.toNode .component).preorder, p element

namespace Render

variable {S : String → String → Prop} {I : Invocation → Invocation → Prop} {plugins : Plugins}

theorem resolveItems_related {V : Value → Value → Prop} {env env' : Value}
    {items others : List Node}
    (h : List.Forall₂ (fun a b => Outcome.Related V (resolve plugins env a)
      (resolve plugins env' b)) items others) :
    Outcome.Related (List.Forall₂ V) (resolveItems plugins env items)
      (resolveItems plugins env' others) := by
  induction h with
  | nil => exact .ok .nil
  | cons ha _ ih => exact ha.bind fun _ _ hvw => ih.bind fun _ _ hrest => .ok (.cons hvw hrest)

theorem resolveFields_related {V : Value → Value → Prop} {env env' : Value}
    {fields others : List (String × Node)}
    (h : Fields.Forall₂ (fun a b => Outcome.Related V (resolve plugins env a)
      (resolve plugins env' b)) fields others) :
    Outcome.Related (Fields.Forall₂ V) (resolveFields plugins env fields)
      (resolveFields plugins env' others) := by
  induction h with
  | nil => exact .ok .nil
  | cons ha _ ih => exact ha.bind fun _ _ hvw => ih.bind fun _ _ hrest => .ok (.cons hvw hrest)

/-- A config resolves alike in two environments if its binds find alike values
and its helpers compute alike values. -/
theorem resolve_related {env env' : Value} (node : Node) (hs : ∀ a, S a a)
    (hb : ∀ reference, .bind reference ∈ node.preorder →
      Value.Alike S I (reference.evaluate env) (reference.evaluate env'))
    (hh : ∀ used, .invocation .helper used ∈ node.preorder → ∀ v w, Value.Alike S I v w →
      Outcome.Related (Value.Alike S I) (callHelper plugins used.name used.plugin v env)
        (callHelper plugins used.name used.plugin w env'))
    (hc : ∀ used, .invocation .component used ∈ node.preorder → I used used) :
    Outcome.Related (Value.Alike S I) (resolve plugins env node)
      (resolve plugins env' node) := by
  induction node using Node.byParts with
  | bind reference => exact .ok (hb reference (by simp [Node.preorder]))
  | invocation role name plugin config declaration ih =>
    cases role with
    | component =>
      exact .ok (.element (hc ⟨name, plugin, config, declaration⟩ (by simp [Node.preorder])))
    | helper =>
      have below := Node.preorder_subset_invocation .helper name plugin config declaration
      have hconfig := ih (fun reference hm => hb reference (below hm))
        (fun used hm => hh used (below hm)) (fun used hm => hc used (below hm))
      exact hconfig.bind (hh ⟨name, plugin, config, declaration⟩ (by simp [Node.preorder]))
  | map fields ih =>
    refine (resolveFields_related (.refl fun pair hm => ?_)).bind fun _ _ hf => .ok (.object hf)
    have below := Node.preorder_subset_map hm
    exact ih pair hm (fun reference h => hb reference (below h))
      (fun used h => hh used (below h)) (fun used h => hc used (below h))
  | sequence items ih =>
    refine (resolveItems_related (List.forall₂_same.2 fun item hm => ?_)).bind
      fun _ _ hi => .ok (.array hi)
    have below := Node.preorder_subset_sequence hm
    exact ih item hm (fun reference h => hb reference (below h))
      (fun used h => hh used (below h)) (fun used h => hc used (below h))
  | scalar value => exact .ok (.ofJson hs value)

/-- The same config resolves alike in two environments if the binds and helpers
that `p` admits do. -/
theorem resolve_same {p : Element → Prop} {env env' : Value} {node : Node}
    (hn : ∀ element ∈ node.preorder, p element) (hs : ∀ a, S a a)
    (hb : ∀ reference, p (.bind reference) →
      Value.Alike S (Invocation.Same p) (reference.evaluate env) (reference.evaluate env'))
    (hh : ∀ used, p (.invocation .helper used) → ∀ v w, Value.Alike S (Invocation.Same p) v w →
      Outcome.Related (Value.Alike S (Invocation.Same p))
        (callHelper plugins used.name used.plugin v env)
        (callHelper plugins used.name used.plugin w env')) :
    Outcome.Related (Value.Alike S (Invocation.Same p)) (resolve plugins env node)
      (resolve plugins env' node) := by
  refine resolve_related node hs (fun reference hm => hb reference (hn _ hm))
    (fun used hm => hh used (hn _ hm)) fun used hm => ⟨rfl, fun element he => ?_⟩
  rcases List.mem_cons.1 he with rfl | he
  · exact hn _ hm
  · exact hn _ (Node.preorder_subset_of_mem hm he)

/-- Related components render to alike outcomes at every limit, if their plug-ins
run related scripts on the configs they are given. -/
theorem component_related {E : Value → Value → Prop} {escape : Bool}
    (step : ∀ a b env env', I a b → E env env' →
      Outcome.Related (fun config config' => a.name = b.name ∧
          Script.Related (Value.Alike S I) E (Value.Alike S I)
            ((plugins a.plugin).run config env true) ((plugins b.plugin).run config' env' true))
        (prepareConfig plugins escape a.config env) (prepareConfig plugins escape b.config env'))
    (limit : Nat) (a b : Invocation) (env env' : Value) (hab : I a b) (he : E env env') :
    Outcome.Related (Value.Alike S I) (component plugins escape limit a env)
      (component plugins escape limit b env') := by
  -- a script may ask for any component that its values carry, below any scope it makes
  induction limit generalizing a b env env' with
  | zero => exact .error .tooDeep
  | succ limit ih =>
    refine (step a b env env' hab he).bind fun config config' h => ?_
    rw [h.1]
    refine h.2.run b.name fun v w e f hvw hef => ?_
    cases hvw with
    | element hnested => exact ih _ _ e f hnested hef
    | null => exact .ok .null
    | bool value => exact .ok (.bool value)
    | number value => exact .ok (.number value)
    | string hs => exact .ok (.string hs)
    | array hi => exact .ok (.array hi)
    | object hf => exact .ok (.object hf)
    | foreign value => exact .ok (.foreign value)

end Render

end DeclaredUi
