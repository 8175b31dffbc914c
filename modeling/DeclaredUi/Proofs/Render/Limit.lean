import DeclaredUi.Proofs.Parts
import DeclaredUi.Render

/-! The limit of nesting. A rendering that stays within a limit comes to the same
outcome under every higher one, so it makes sense to say that it ends. -/

namespace DeclaredUi

namespace Script

variable {α β : Type} {P Q : Value → Value → Prop}

/-- Every child that the script asks for satisfies `P` in the environment it is asked for
in, whatever the answers are. -/
inductive Asks (P : Value → Value → Prop) : Script α → Prop
  | done (result : α) : Asks P (.done result)
  | fail (failure : Failure) : Asks P (.fail failure)
  | renderChild {child env : Value} {next : Except Error Value → Script α} : P child env →
      (∀ answer, Asks P (next answer)) → Asks P (.renderChild child env next)

namespace Asks

theorem bind {script : Script α} {next : α → Script β} (h : script.Asks P)
    (hn : ∀ a, (next a).Asks P) : (script >>= next).Asks P := by
  induction h with
  | done result => exact hn result
  | fail failure => exact .fail failure
  | renderChild hp _ ih => exact .renderChild hp ih

theorem imp {script : Script α} (h : script.Asks P) (hi : ∀ child env, P child env → Q child env) :
    script.Asks Q := by
  induction h with
  | done result => exact .done result
  | fail failure => exact .fail failure
  | renderChild hp _ ih => exact .renderChild (hi _ _ hp) ih

theorem render {child env : Value} (h : P child env) : (Script.render child env).Asks P := by
  refine .renderChild h fun answer => ?_
  cases answer with
  | ok value => exact .done value
  | error error => exact .fail _

end Asks

/-- A script that stays within the limit runs the same way if its children do. -/
theorem run_eq_of_ne_tooDeep {script : Script α} (element : String)
    {answer other : Value → Value → Outcome Value}
    (h : ∀ child env, answer child env ≠ .error .tooDeep → other child env = answer child env)
    (hs : script.run element answer ≠ .error .tooDeep) :
    script.run element other = script.run element answer := by
  induction script with
  | done result => rfl
  | fail failure => rfl
  | renderChild child env next ih =>
    rw [Script.run] at hs
    cases ho : answer child env with
    | ok value =>
      have hother := (h child env (by simp [ho])).trans ho
      rw [ho] at hs
      simp only [Script.run, ho, hother]
      exact ih _ hs
    | error stop =>
      cases stop with
      | error error =>
        have hother := (h child env (by simp [ho])).trans ho
        rw [ho] at hs
        simp only [Script.run, ho, hother]
        exact ih _ hs
      | panic message =>
        have hother := (h child env (by simp [ho])).trans ho
        simp only [Script.run, ho, hother]
      | tooDeep => simp [ho] at hs

end Script

theorem Outcome.guarded_ne_tooDeep {α : Type} {outcome : Outcome α}
    (h : outcome ≠ .error .tooDeep) : outcome.guarded ≠ .error .tooDeep := by
  cases outcome with
  | ok value => exact h
  | error stop =>
    cases stop with
    | error error => exact h
    | panic message => simp [Outcome.guarded]
    | tooDeep => exact h

namespace Render

variable {plugins : Plugins} {escape : Bool}

theorem callHelper_ne_tooDeep (name : String) (plugin : PluginId) (config env : Value) :
    callHelper plugins name plugin config env ≠ .error .tooDeep := by
  unfold callHelper
  cases (plugins plugin).call config env with
  | ok value => simp [Except.mapError]
  | error failure => cases failure <;> simp [Except.mapError, Stop.ofFailure]

/-- A config is never too deep: nothing in it is rendered. -/
theorem resolve_ne_tooDeep (env : Value) (node : Node) :
    resolve plugins env node ≠ .error .tooDeep := by
  induction node using Node.byParts with
  | bind reference => simp [resolve]
  | invocation role name plugin config declaration ih =>
    cases role with
    | component => simp [resolve]
    | helper =>
      rw [resolve]
      exact except_bind_ne ih fun value _ => callHelper_ne_tooDeep name plugin value env
  | map fields ih =>
    rw [resolve]
    refine except_bind_ne ?_ fun values _ => by simp [pure, Except.pure]
    induction fields with
    | nil => simp [resolveFields]
    | cons field rest ihrest =>
      have hrest := ihrest fun other hm => ih other (List.mem_cons_of_mem _ hm)
      exact except_bind_ne (ih field List.mem_cons_self) fun value _ =>
        except_bind_ne hrest fun values _ => by simp [pure, Except.pure]
  | sequence items ih =>
    rw [resolve]
    refine except_bind_ne ?_ fun values _ => by simp [pure, Except.pure]
    induction items with
    | nil => simp [resolveItems]
    | cons item rest ihrest =>
      have hrest := ihrest fun other hm => ih other (List.mem_cons_of_mem _ hm)
      exact except_bind_ne (ih item List.mem_cons_self) fun value _ =>
        except_bind_ne hrest fun values _ => by simp [pure, Except.pure]
  | scalar value => simp [resolve]

theorem prepareConfig_ne_tooDeep (config : Node) (env : Value) :
    prepareConfig plugins escape config env ≠ .error .tooDeep := by
  have hresolve : resolve plugins env config ≠ .error .tooDeep := resolve_ne_tooDeep env config
  unfold prepareConfig
  cases hr : resolve plugins env config with
  | ok value => simp [Except.map]
  | error stop =>
    intro he
    exact hresolve (hr.trans (congrArg Except.error (Except.error.inj he)))

/-- What stays within a limit comes to the same under any higher one. -/
theorem component_eq_of_le {limit higher : Nat} (hle : limit ≤ higher) {used : Invocation}
    {env : Value} (h : component plugins escape limit used env ≠ .error .tooDeep) :
    component plugins escape higher used env = component plugins escape limit used env := by
  induction limit generalizing higher used env with
  | zero => exact absurd rfl h
  | succ limit ih =>
    obtain ⟨higher, rfl⟩ : ∃ more, higher = more + 1 := ⟨higher - 1, by omega⟩
    rw [component] at h ⊢
    rw [component]
    cases hc : prepareConfig plugins escape used.config env with
    | error stop => rfl
    | ok config =>
      rw [hc] at h
      refine Script.run_eq_of_ne_tooDeep used.name (fun child env ho => ?_) h
      cases child with
      | element nested => exact ih (by omega) ho
      | _ => rfl

/-- A component whose first child is too deep is too deep itself. -/
theorem component_tooDeep_of_child {limit : Nat} {used nested : Invocation}
    {env config scope : Value} {next : Except Error Value → Script Value}
    (hconfig : prepareConfig plugins escape used.config env = .ok config)
    (hrun : (plugins used.plugin).run config env true = .renderChild (.element nested) scope next)
    (h : component plugins escape limit nested scope = .error .tooDeep) :
    component plugins escape (limit + 1) used env = .error .tooDeep := by
  rw [component, hconfig]
  change Script.run _ _ _ = _
  rw [hrun, Script.run]
  dsimp only
  rw [h]

end Render

end DeclaredUi
