import DeclaredUi.Proofs.Render.Record
import DeclaredUi.Proofs.Value.Escape
import DeclaredUi.Reference.Registry

/-! Where escaping happens. Every plug-in is given its config escaped, whoever asked
for the call and in whatever environment; only a helper in the config of another
element is given its own config as it was resolved. -/

namespace DeclaredUi

/-- A whole record of what `rendered` does with the plug-ins, in which every config
is escaped at the boundary and nowhere else. -/
structure Recorded.Guarded (plugins : Plugins) (rendered : Plugins → Outcome Value)
    (record : Recorded Value) : Prop where
  outcome : record.outcome = rendered plugins
  complete : ∀ others, record.All (Call.Agrees plugins others) →
    rendered others = rendered plugins
  escaped : ∀ call ∈ record.calls, call.occasion ≠ .nested →
    ∃ resolved, Render.resolve plugins call.env call.element.config = .ok resolved ∧
      call.config = resolved.escapeHtml ∧ Value.EveryString Html.Escaped call.config
  untouched : ∀ call ∈ record.calls, call.occasion = .nested →
    Render.resolve plugins call.env call.element.config = .ok call.config

namespace Recorded

variable {plugins : Plugins} {rendered : Plugins → Outcome Value}

theorem escaped_of_prepared {call : Call} (h : call.Prepared plugins true)
    (ho : call.occasion ≠ .nested) :
    ∃ resolved, Render.resolve plugins call.env call.element.config = .ok resolved ∧
      call.config = resolved.escapeHtml ∧ Value.EveryString Html.Escaped call.config := by
  obtain ⟨occasion, element, config, env⟩ := call
  have hconfig : Render.prepareConfig plugins true element.config env = .ok config := by
    cases occasion with
    | nested => exact absurd rfl ho
    | component => exact h
    | direct => exact h
  unfold Render.prepareConfig at hconfig
  cases hresolved : Render.resolve plugins env element.config with
  | error stop =>
    rw [hresolved] at hconfig
    cases hconfig
  | ok resolved =>
    rw [hresolved] at hconfig
    obtain rfl := Except.ok.inj hconfig
    exact ⟨resolved, rfl, rfl, Value.everyString_escapeHtml Html.escaped_escape resolved⟩

/-- A faithful record of a rendering with escaping is guarded. -/
theorem guarded_of_faithful (record : Plugins → Recorded Value)
    (h : ∀ plugins others, (record plugins).Faithful plugins others true (record others)
      (rendered plugins)) : (record plugins).Guarded plugins rendered where
  outcome := (h plugins plugins).outcome
  complete others hagree := by
    rw [← (h others others).outcome, (h plugins others).complete hagree,
      (h plugins plugins).outcome]
  escaped call hm := escaped_of_prepared ((h plugins plugins).prepared call hm)
  untouched call hm ho := by
    have hp := (h plugins plugins).prepared call hm
    unfold Call.Prepared at hp
    rwa [ho] at hp

end Recorded

/-- With escaping on the boundary holds for whole runs, of a tree and of any node,
whatever the plug-ins do: the record leaves no call out, and each component in it is
given its config escaped. -/
theorem Renderer.boundary_guarded (plugins : Plugins) (limit : Nat) (env : Value) :
    (∀ root, (Record.component plugins true limit root env).Guarded plugins
      fun plugins => (Renderer.mk root true).render plugins limit env) ∧
    ∀ node, (Record.element plugins true limit node env).Guarded plugins
      fun plugins => Render.element plugins true limit node env :=
  ⟨fun root =>
      Recorded.guarded_of_faithful (fun plugins => Record.component plugins true limit root env)
        fun _ _ => Record.component_faithful limit root env,
    fun node =>
      Recorded.guarded_of_faithful (fun plugins => Record.element plugins true limit node env)
        fun _ _ => Record.element_faithful limit node env⟩

/-- The helper is given the bracket as it is, the component is given it escaped. -/
example :
    (Record.component Reference.plugins true 1
      ⟨"text", ⟨6⟩, .map [("$text", .invocation .helper "join" ⟨3⟩
        (.map [("$join", .bind ⟨"name", .null⟩)]) .null)], .null⟩
      (.object [("name", .string "<b>")])).calls.map
        (fun call => (call.occasion, (call.config.firstTruthy ["$join", "$text"]).text)) =
      [(.nested, "<b>"), (.component, "&lt;b&gt;")] := rfl

end DeclaredUi
