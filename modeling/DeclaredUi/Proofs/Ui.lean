import DeclaredUi.Proofs.Render.Limit
import DeclaredUi.Ui.Basic

/-! What parsing does to an interface. A parse installs its tree exactly when the
declaration is accepted, and never touches the plug-ins. What is rendered afterwards
does not depend on the limit as long as it stays within it. -/

namespace DeclaredUi

namespace Ui

/-- A parse that succeeds installs its tree and leaves the plug-ins alone. -/
theorem installed_of_parse {ui parsed : Ui} {declaration : Json} {root : Invocation}
    (h : ui.parse declaration = (parsed, .ok root)) :
    (Declaration.parse ui.registry declaration).result = .ok root ∧
      parsed.plugins = ui.plugins ∧
      parsed.renderer = some ⟨root, ui.options.escapeHtml⟩ := by
  unfold parse at h
  dsimp only at h
  cases hresult : (Declaration.parse ui.registry declaration).result with
  | ok found =>
    rw [hresult] at h
    obtain ⟨rfl, hfound⟩ := Prod.mk.inj h
    obtain rfl := Except.ok.inj hfound
    exact ⟨rfl, rfl, rfl⟩
  | error fault =>
    rw [hresult] at h
    obtain ⟨-, hfault⟩ := Prod.mk.inj h
    cases hfault

/-- A declaration that is accepted is installed. -/
theorem parse_of_result {ui : Ui} {declaration : Json} {root : Invocation}
    (h : (Declaration.parse ui.registry declaration).result = .ok root) :
    ∃ parsed, ui.parse declaration = (parsed, .ok root) := by
  unfold parse
  dsimp only
  rw [h]
  exact ⟨_, rfl⟩

/-- What is parsed is rendered with the plug-ins and the escaping of the interface. -/
theorem render_parse {ui : Ui} {declaration : Json} {root : Invocation}
    (h : (Declaration.parse ui.registry declaration).result = .ok root) (limit : Nat)
    (env : Value) : (ui.parse declaration).1.render limit env =
      (Render.component ui.plugins ui.options.escapeHtml limit root env).guarded := by
  obtain ⟨parsed, hparse⟩ := parse_of_result h
  obtain ⟨-, hplugins, hrenderer⟩ := installed_of_parse hparse
  unfold render Renderer.render
  rw [hparse, hrenderer, hplugins]

/-- A rendering that stays within a limit comes to the same under any higher one. -/
theorem render_eq_of_le {ui : Ui} {env : Value} {limit higher : Nat} (hle : limit ≤ higher)
    (h : ui.render limit env ≠ .error .tooDeep) : ui.render higher env = ui.render limit env := by
  unfold render at h ⊢
  cases hrenderer : ui.renderer with
  | none => rfl
  | some renderer =>
    rw [hrenderer] at h
    refine congrArg Outcome.guarded (Render.component_eq_of_le hle fun hdeep => h ?_)
    exact congrArg Outcome.guarded hdeep

end Ui

end DeclaredUi
