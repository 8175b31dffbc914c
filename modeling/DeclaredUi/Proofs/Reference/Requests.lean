import DeclaredUi.Proofs.Reference.Elements
import DeclaredUi.Proofs.Reference.Simulation
import DeclaredUi.Proofs.Render.Limit
import DeclaredUi.Proofs.Value.Elements

/-! The children that reference components ask for. A box and a paragraph ask for the
items of their content in the environment they were given; `each` and `scope` ask for
one child in environments of their own making. None of them looks at an answer before
it asks again, and what they hand on are components that they were given. -/

namespace DeclaredUi

namespace Reference

variable {config env : Value}

theorem renderTexts_asks (env : Value) (children : List Value) :
    (renderTexts env children).Asks fun child scope => child ∈ children ∧ scope = env := by
  induction children with
  | nil => exact .done []
  | cons child rest ih =>
    have hrest : (renderTexts env rest).Asks fun asked scope =>
        asked ∈ child :: rest ∧ scope = env :=
      ih.imp fun asked scope h => ⟨List.mem_cons_of_mem _ h.1, h.2⟩
    refine (Script.Asks.render ⟨List.mem_cons_self, rfl⟩).bind fun _ => ?_
    exact hrest.bind fun _ => .done _

theorem paragraph_asks (config env : Value) : (paragraph config env).Asks fun child scope =>
    child ∈ (config.firstTruthy ["sentences", "$paragraph"]).intoItems ∧ scope = env :=
  (renderTexts_asks env _).bind fun _ => .done _

theorem vbox_asks (config env : Value) : (vbox config env).Asks fun child scope =>
    child ∈ (config.firstTruthy ["children", "$vbox"]).intoItems ∧ scope = env :=
  (renderTexts_asks env _).bind fun _ => .done _

/-- Binding one more item keeps what holds of the scope. -/
theorem renderEach_asks {Good : List (String × Value) → Prop} (child : Value) {name : String}
    {items : List Value} (hstep : ∀ fields, Good fields → ∀ item ∈ items,
      Good (Fields.insert name item fields)) {fields : List (String × Value)} (h : Good fields) :
    (renderEach child name fields items).Asks fun asked scope =>
      asked = child ∧ ∃ inner, scope = .object inner ∧ Good inner := by
  induction items generalizing fields with
  | nil => exact .done ""
  | cons item rest ih =>
    have hscope := hstep fields h item List.mem_cons_self
    refine (Script.Asks.render ⟨rfl, _, rfl, hscope⟩).bind fun _ => ?_
    have hrest := ih (fun fields h other hm => hstep fields h other (List.mem_cons_of_mem _ hm))
      hscope
    exact hrest.bind fun _ => .done _

theorem each_asks {Good : List (String × Value) → Prop} (h : Good env.fieldsOrEmpty)
    (hstep : ∀ fields, Good fields →
      ∀ item ∈ (config.firstTruthy ["items", "$each"]).intoItems,
        Good (Fields.insert (yieldName config) item fields)) :
    (each config env).Asks fun child scope =>
      child = config.getOrNull "do" ∧ ∃ fields, scope = .object fields ∧ Good fields :=
  (renderEach_asks _ hstep h).bind fun _ => .done _

theorem scope_asks (config env : Value) : (scope config env).Asks fun child scope =>
    child = config.getOrNull "do" ∧
      scope = .object (config.firstTruthy ["bindings", "$let"]).fieldsOrEmpty :=
  .render ⟨rfl, rfl⟩

/-! ## What is handed on -/

variable {used : Invocation} {p : Invocation → Prop}

/-- A helper hands on what is in its config, if anything. -/
theorem callHelper_everyElement (hused : Registered .helper used)
    {found : Value} (h : config.EveryElement p)
    (hcall : Render.callHelper plugins used.name used.plugin config env = .ok found) :
    found.EveryElement p := by
  have hentry := hused.entry
  simp only [registry, List.mem_cons, List.not_mem_nil, or_false, Registry.Entry.mk.injEq,
    reduceCtorEq, and_false, false_or] at hentry
  rcases hentry with ⟨-, hplugin, -⟩ | ⟨-, hplugin, -⟩ <;> rw [hplugin] at hcall
  · obtain rfl := Except.ok.inj hcall
    rw [choose_eq]
    exact h.getOrNull _
  · obtain rfl := Except.ok.inj hcall
    exact .string _

/-- A component has children from its config rendered, in environments that hold what was in
its own and what it stores. -/
theorem asks_stored {q : Invocation → Prop} (hused : Registered .component used)
    (hconfig : config.EveryElement p) (henv : env.EveryElement q)
    (hstored : used.name = "each" ∨ used.name = "let" →
      (config.firstTruthy [contentKey used.name, mark used.name]).EveryElement q) :
    ((plugins used.plugin).run config env true).Asks
      fun child scope => child.EveryElement p ∧ scope.EveryElement q := by
  rcases hused.component_cases with ⟨hname, hplugin⟩ | ⟨-, hplugin⟩ | ⟨hname, hplugin⟩ |
    ⟨-, hplugin⟩ | ⟨-, hplugin⟩ | ⟨-, hplugin⟩
  all_goals rw [hplugin]
  · have hitems := hstored (.inl hname)
    rw [contentKeys_each hname] at hitems
    have hstep : ∀ fields : List (String × Value), (∀ field ∈ fields, field.2.EveryElement q) →
        ∀ item ∈ (config.firstTruthy ["items", "$each"]).intoItems,
          ∀ field ∈ Fields.insert (yieldName config) item fields, field.2.EveryElement q := by
      intro fields hfields item hitem field hm
      rcases Fields.mem_insert hm with rfl | hm
      · exact hitems.mem_intoItems hitem
      · exact hfields field hm
    refine (each_asks (fun _ => henv.fieldsOrEmpty) hstep).imp fun child scope hasked => ?_
    obtain ⟨rfl, fields, rfl, hfields⟩ := hasked
    exact ⟨hconfig.getOrNull "do", .object hfields⟩
  · exact .done _
  · have hbindings := hstored (.inr hname)
    rw [contentKeys_let hname] at hbindings
    refine (scope_asks config env).imp fun child scope hasked => ?_
    obtain ⟨rfl, rfl⟩ := hasked
    exact ⟨hconfig.getOrNull "do", .object fun _ => hbindings.fieldsOrEmpty⟩
  · refine (paragraph_asks config env).imp fun child scope hasked => ?_
    obtain ⟨hm, rfl⟩ := hasked
    exact ⟨(hconfig.firstTruthy _).mem_intoItems hm, henv⟩
  · exact .done _
  · refine (vbox_asks config env).imp fun child scope hasked => ?_
    obtain ⟨hm, rfl⟩ := hasked
    exact ⟨(hconfig.firstTruthy _).mem_intoItems hm, henv⟩

/-- A component hands on what is in its config and its environment, if anything. -/
theorem asks_everyElement (hused : Registered .component used) (hconfig : config.EveryElement p)
    (henv : env.EveryElement p) : ((plugins used.plugin).run config env true).Asks
      fun child scope => child.EveryElement p ∧ scope.EveryElement p :=
  asks_stored hused hconfig henv fun _ => hconfig.firstTruthy _

end Reference

end DeclaredUi
