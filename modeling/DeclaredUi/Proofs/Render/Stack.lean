import DeclaredUi.Proofs.Render.Nested

/-! The renderings that are going on at one time. A rendering goes on while one that it
encloses does, so they form a stack, and rendering goes beyond a limit if and only if
there is a stack that is higher than the limit. -/

namespace DeclaredUi

namespace Render

/-- The renderings that can be going on at one time, the innermost first. -/
inductive Active (plugins : Plugins) (escape : Bool) (start : Rendering) : List Rendering → Prop
  | root : Active plugins escape start [start]
  | nested {outer inner : Rendering} {rest : List Rendering} :
      Active plugins escape start (outer :: rest) → Encloses plugins escape outer inner →
      Active plugins escape start (inner :: outer :: rest)

variable {plugins : Plugins} {escape : Bool} {start outer inner : Rendering}
  {stack : List Rendering}

namespace Active

/-- A stack of an enclosed rendering stands on the enclosing one. -/
theorem of_encloses (he : Encloses plugins escape outer inner)
    (h : Active plugins escape inner stack) : Active plugins escape outer (stack ++ [outer]) := by
  induction h with
  | root => exact .nested .root he
  | nested _ hinner ih => exact .nested ih hinner

theorem eq_root_or_append (h : Active plugins escape start stack) :
    stack = [start] ∨ ∃ inner rest, Encloses plugins escape start inner ∧
      Active plugins escape inner rest ∧ stack = rest ++ [start] := by
  induction h with
  | root => exact .inl rfl
  | @nested outer inner below _ hinner ih =>
    rcases ih with hroot | ⟨first, rest, hfirst, hrest, happend⟩
    · obtain ⟨rfl, rfl⟩ := List.cons.inj hroot
      exact .inr ⟨inner, [inner], hinner, .root, rfl⟩
    · cases rest with
      | nil => cases hrest
      | cons last rest =>
        obtain ⟨rfl, rfl⟩ := List.cons.inj happend
        exact .inr ⟨first, inner :: outer :: rest, hfirst, .nested hrest hinner, rfl⟩

end Active

/-- A script that goes beyond the limit asks for a child that does. -/
theorem requests_of_run_tooDeep {α : Type} {element : String} {script : Script α} {limit : Nat}
    (h : script.run element (childOutcome plugins escape limit) = .error .tooDeep) :
    ∃ child env, script.Requests (Answers plugins escape) child env ∧
      childOutcome plugins escape limit child env = .error .tooDeep := by
  induction script with
  | done result => cases h
  | fail failure => cases failure <;> cases h
  | renderChild child env next ih =>
    have hgo : ∀ reply, childOutcome plugins escape limit child env = reply.mapError .error →
        (next reply).run element (childOutcome plugins escape limit) = .error .tooDeep →
        ∃ other scope, (Script.renderChild child env next).Requests (Answers plugins escape)
            other scope ∧ childOutcome plugins escape limit other scope = .error .tooDeep := by
      intro reply hreply hrun
      obtain ⟨other, scope, hrequests, hdeep⟩ := ih reply hrun
      exact ⟨other, scope, .later ⟨limit, hreply⟩ hrequests, hdeep⟩
    rw [Script.run] at h
    cases ho : childOutcome plugins escape limit child env with
    | ok value =>
      rw [ho] at h
      exact hgo (.ok value) ho h
    | error stop =>
      rw [ho] at h
      cases stop with
      | error error => exact hgo (.error error) ho h
      | panic message => cases h
      | tooDeep => exact ⟨child, env, .now, ho⟩

/-- A rendering that goes beyond a limit encloses one that goes beyond one level less. -/
theorem component_succ_tooDeep_iff {limit : Nat} :
    component plugins escape (limit + 1) start.1 start.2 = .error .tooDeep ↔
      ∃ inner, Encloses plugins escape start inner ∧
        component plugins escape limit inner.1 inner.2 = .error .tooDeep := by
  rw [component_succ]
  constructor
  · intro h
    cases hc : prepareConfig plugins escape start.1.config start.2 with
    | error stop =>
      rw [hc] at h
      exact absurd (hc.trans (congrArg Except.error (Except.error.inj h)))
        (prepareConfig_ne_tooDeep start.1.config start.2)
    | ok config =>
      rw [hc] at h
      obtain ⟨child, env, hr, hdeep⟩ := requests_of_run_tooDeep h
      cases child with
      | element nested => exact ⟨(nested, env), ⟨config, hc, hr⟩, hdeep⟩
      | _ => cases hdeep
  · rintro ⟨inner, ⟨config, hc, hr⟩, hdeep⟩
    rw [hc]
    by_contra h
    exact childOutcome_ne_tooDeep_of_requests hr h hdeep

/-- The limit is the greatest number of renderings that may go on at one time. -/
theorem component_tooDeep_iff (limit : Nat) (start : Rendering) :
    component plugins escape limit start.1 start.2 = .error .tooDeep ↔
      ∃ stack, Active plugins escape start stack ∧ limit < stack.length := by
  induction limit generalizing start with
  | zero => exact ⟨fun _ => ⟨[start], .root, Nat.zero_lt_one⟩, fun _ => rfl⟩
  | succ limit ih =>
    rw [component_succ_tooDeep_iff]
    constructor
    · rintro ⟨inner, he, hdeep⟩
      obtain ⟨stack, hstack, hlength⟩ := (ih inner).1 hdeep
      refine ⟨stack ++ [start], hstack.of_encloses he, ?_⟩
      rw [List.length_append]
      exact Nat.succ_lt_succ hlength
    · rintro ⟨stack, hstack, hlength⟩
      -- the limit is used up from the root on, the last of the stack
      rcases hstack.eq_root_or_append with rfl | ⟨inner, rest, he, hrest, rfl⟩
      · cases Nat.lt_of_succ_lt_succ hlength
      · rw [List.length_append] at hlength
        exact ⟨inner, he, (ih inner).2 ⟨rest, hrest, Nat.lt_of_succ_lt_succ hlength⟩⟩

end Render

end DeclaredUi
