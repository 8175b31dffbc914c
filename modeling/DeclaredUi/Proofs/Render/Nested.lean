import DeclaredUi.Node.Elements
import DeclaredUi.Proofs.Render.Limit
import Mathlib.Logic.Relation
import Mathlib.Order.WellQuasiOrder

/-! How renderings enclose each other. A rendering is a component in an environment, and
it encloses those of the children it asks for. Rendering ends if and only if they do not
enclose each other for ever. A tree has finitely many components, so for ever means that
one of them is rendered within its own rendering again and again, and it is enough that
its environment gets smaller each time. -/

namespace DeclaredUi

/-- The script, given such answers, asks for the child in the environment. -/
inductive Script.Requests {α : Type} (answers : Value → Value → Except Error Value → Prop)
    (child env : Value) : Script α → Prop
  | now {next : Except Error Value → Script α} :
      Requests answers child env (.renderChild child env next)
  | later {other scope : Value} {reply : Except Error Value}
      {next : Except Error Value → Script α} : answers other scope reply →
      Requests answers child env (next reply) →
      Requests answers child env (.renderChild other scope next)

theorem Script.Asks.of_requests {α : Type} {P : Value → Value → Prop}
    {answers : Value → Value → Except Error Value → Prop} {script : Script α} {child env : Value}
    (h : script.Asks P) (hr : script.Requests answers child env) : P child env := by
  induction hr with
  | now =>
    cases h with
    | renderChild hp _ => exact hp
  | later _ _ ih =>
    cases h with
    | renderChild _ hnext => exact ih (hnext _)

namespace Render

/-- A component that is rendered, and its environment. -/
abbrev Rendering := Invocation × Value

section

variable (plugins : Plugins) (escape : Bool)

/-- What a child comes to within the limit. -/
def childOutcome (limit : Nat) (child env : Value) : Outcome Value :=
  match child with
  | .element nested => component plugins escape limit nested env
  | other => .ok other

def Answers (child env : Value) (reply : Except Error Value) : Prop :=
  ∃ limit, childOutcome plugins escape limit child env = reply.mapError .error

/-- The outer rendering asks for the inner one. -/
def Encloses (outer inner : Rendering) : Prop :=
  ∃ config, prepareConfig plugins escape outer.1.config outer.2 = .ok config ∧
    ((plugins outer.1.plugin).run config outer.2 true).Requests (Answers plugins escape)
      (.element inner.1) inner.2

/-- Each time that a component is rendered within its own rendering, its environment is
smaller. -/
def Shrinks (measure : Value → Nat) (start : Rendering) : Prop :=
  ∀ used env inner, Relation.ReflTransGen (Encloses plugins escape) start (used, env) →
    Relation.TransGen (Encloses plugins escape) (used, env) (used, inner) →
    measure inner < measure env

end

variable {plugins : Plugins} {escape : Bool}

theorem component_succ (limit : Nat) (used : Invocation) (env : Value) :
    component plugins escape (limit + 1) used env =
      (prepareConfig plugins escape used.config env).bind fun config =>
        ((plugins used.plugin).run config env true).run used.name
          (childOutcome plugins escape limit) := rfl

theorem childOutcome_eq_of_le {limit higher : Nat} (hle : limit ≤ higher) {child env : Value}
    (h : childOutcome plugins escape limit child env ≠ .error .tooDeep) :
    childOutcome plugins escape higher child env = childOutcome plugins escape limit child env := by
  cases child with
  | element nested => exact component_eq_of_le hle h
  | _ => rfl

/-! ## Ends and chains -/

/-- A script comes to an end if every child does that it asks for. -/
theorem exists_run_ne_tooDeep {α : Type} (element : String) {script : Script α}
    (h : ∀ child env, script.Requests (Answers plugins escape) child env →
      ∃ limit, childOutcome plugins escape limit child env ≠ .error .tooDeep) :
    ∃ limit, script.run element (childOutcome plugins escape limit) ≠ .error .tooDeep := by
  induction script with
  | done result => exact ⟨0, by simp [Script.run]⟩
  | fail failure => exact ⟨0, by cases failure <;> simp [Script.run, Stop.ofFailure]⟩
  | renderChild child env next ih =>
    obtain ⟨limit, hlimit⟩ := h child env .now
    have hgo : ∀ reply, childOutcome plugins escape limit child env = reply.mapError .error →
        ∃ enough, ∀ higher, enough ≤ higher →
          (next reply).run element (childOutcome plugins escape higher) ≠ .error .tooDeep := by
      intro reply ho
      obtain ⟨enough, hrun⟩ := ih reply fun other scope hr => h other scope (.later ⟨limit, ho⟩ hr)
      refine ⟨enough, fun higher hle => ?_⟩
      rw [Script.run_eq_of_ne_tooDeep element (fun _ _ => childOutcome_eq_of_le hle) hrun]
      exact hrun
    cases ho : childOutcome plugins escape limit child env with
    | ok value =>
      obtain ⟨enough, hnext⟩ := hgo (.ok value) ho
      refine ⟨max limit enough, ?_⟩
      rw [Script.run, childOutcome_eq_of_le (Nat.le_max_left _ _) hlimit, ho]
      exact hnext _ (Nat.le_max_right _ _)
    | error stop =>
      cases stop with
      | error error =>
        obtain ⟨enough, hnext⟩ := hgo (.error error) ho
        refine ⟨max limit enough, ?_⟩
        rw [Script.run, childOutcome_eq_of_le (Nat.le_max_left _ _) hlimit, ho]
        exact hnext _ (Nat.le_max_right _ _)
      | panic message => exact ⟨limit, by simp [Script.run, ho]⟩
      | tooDeep => exact absurd ho hlimit

/-- A script that comes to an end within the limit asks only for children that do. -/
theorem childOutcome_ne_tooDeep_of_requests {α : Type} {element : String} {script : Script α}
    {limit : Nat} {child env : Value} (hr : script.Requests (Answers plugins escape) child env)
    (h : script.run element (childOutcome plugins escape limit) ≠ .error .tooDeep) :
    childOutcome plugins escape limit child env ≠ .error .tooDeep := by
  induction hr with
  | now =>
    intro ho
    exact h (by simp [Script.run, ho])
  | @later other scope reply next hanswer _ ih =>
    obtain ⟨enough, hreply⟩ := hanswer
    have hother : childOutcome plugins escape limit other scope ≠ .error .tooDeep := by
      intro ho
      exact h (by simp [Script.run, ho])
    have hne : childOutcome plugins escape enough other scope ≠ .error .tooDeep := by
      rw [hreply]
      cases reply <;> simp [Except.mapError]
    have hsame : childOutcome plugins escape limit other scope = reply.mapError .error := by
      rw [← hreply, ← childOutcome_eq_of_le (Nat.le_max_left limit enough) hother]
      exact childOutcome_eq_of_le (Nat.le_max_right limit enough) hne
    refine ih ?_
    rw [Script.run, hsame] at h
    cases reply with
    | ok value => exact h
    | error error => exact h

/-- Rendering ends if and only if renderings do not enclose each other for ever. -/
theorem component_ends_iff {start : Rendering} :
    (∃ limit, component plugins escape limit start.1 start.2 ≠ .error .tooDeep) ↔
      Acc (fun inner outer => Encloses plugins escape outer inner) start := by
  constructor
  · rintro ⟨limit, h⟩
    induction limit generalizing start with
    | zero => exact absurd rfl h
    | succ limit ih =>
      refine .intro start fun inner ⟨config, hconfig, hr⟩ => ?_
      rw [component_succ, hconfig] at h
      exact ih (childOutcome_ne_tooDeep_of_requests hr h)
  · intro h
    induction h with
    | intro start _ ih =>
      cases hc : prepareConfig plugins escape start.1.config start.2 with
      | error stop =>
        refine ⟨1, fun he => prepareConfig_ne_tooDeep start.1.config start.2 (hc.trans ?_)⟩
        rw [component_succ, hc] at he
        exact congrArg Except.error (Except.error.inj he)
      | ok config =>
        have hchildren : ∀ child env,
            ((plugins start.1.plugin).run config start.2 true).Requests
              (Answers plugins escape) child env →
            ∃ limit, childOutcome plugins escape limit child env ≠ .error .tooDeep := by
          intro child env hr
          cases child with
          | element nested => exact ih (nested, env) ⟨config, hc, hr⟩
          | _ => exact ⟨0, by simp [childOutcome]⟩
        obtain ⟨limit, hrun⟩ := exists_run_ne_tooDeep start.1.name hchildren
        refine ⟨limit + 1, ?_⟩
        rw [component_succ, hc]
        exact hrun

/-- Renderings of finitely many components do not enclose each other for ever if every
component shrinks. -/
theorem acc_of_shrinks {start : Rendering} {measure : Value → Nat} {elements : List Element}
    (hfinite : ∀ inner, Relation.ReflTransGen (Encloses plugins escape) start inner →
      .invocation .component inner.1 ∈ elements)
    (h : Shrinks plugins escape measure start) :
    Acc (fun inner outer => Encloses plugins escape outer inner) start := by
  by_contra hacc
  obtain ⟨chain, hstart, hchain⟩ := not_acc_iff_exists_descending_chain.1 hacc
  have hreached : ∀ n, Relation.ReflTransGen (Encloses plugins escape) start (chain n) := by
    intro n
    induction n with
    | zero => rw [hstart]
    | succ n ih => exact ih.tail (hchain n)
  have : Finite {element // element ∈ elements} := elements.finite_toSet
  -- some component comes again in an environment that is not smaller
  obtain ⟨earlier, later, hlt, hsame, hle⟩ :=
    (Finite.wellQuasiOrdered Eq).prod wellQuasiOrdered_le fun n =>
      ((⟨_, hfinite _ (hreached n)⟩ : {element // element ∈ elements}), measure (chain n).2)
  have hused : (chain later).1 = (chain earlier).1 := by
    simpa using (congrArg Subtype.val hsame).symm
  have hwithin := Nat.rel_of_forall_rel_succ_of_lt
    (Relation.TransGen (Encloses plugins escape)) (fun n => .single (hchain n)) hlt
  have hlater : chain later = ((chain earlier).1, (chain later).2) := Prod.ext hused rfl
  rw [hlater] at hwithin
  exact Nat.not_lt.2 hle (h _ _ _ (hreached earlier) hwithin)

end Render

end DeclaredUi
