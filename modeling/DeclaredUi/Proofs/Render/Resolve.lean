import DeclaredUi.Proofs.Node.Surface
import DeclaredUi.Proofs.Value.Elements
import DeclaredUi.Proofs.Value.Escape
import DeclaredUi.Render

/-! Configs that resolve, told by their items and fields: a sequence has the values
of its items and a map those of its fields, so the value under a key is that of
the node under the key. The components in a value come from the surface of its node
or from the environment. -/

namespace DeclaredUi

namespace Render

variable {plugins : Plugins} {env : Value}

/-- The node comes to the value. -/
def Resolves (plugins : Plugins) (env : Value) (node : Node) (value : Value) : Prop :=
  resolve plugins env node = .ok value

theorem resolveItems_ok_iff {items : List Node} {values : List Value} :
    resolveItems plugins env items = .ok values ↔
      List.Forall₂ (Resolves plugins env) items values := by
  induction items generalizing values with
  | nil => exact ⟨fun h => (by cases h; exact .nil), fun h => (by cases h; rfl)⟩
  | cons item rest ih =>
    rw [resolveItems]
    simp only [except_bind_ok_iff, ih]
    constructor
    · rintro ⟨value, hvalue, others, hothers, h⟩
      obtain rfl := Except.ok.inj h
      exact .cons hvalue hothers
    · rintro (_ | ⟨hvalue, hothers⟩)
      exact ⟨_, hvalue, _, hothers, rfl⟩

theorem resolveFields_ok_iff {fields : List (String × Node)} {values : List (String × Value)} :
    resolveFields plugins env fields = .ok values ↔
      Fields.Forall₂ (Resolves plugins env) fields values := by
  induction fields generalizing values with
  | nil => exact ⟨fun h => (by cases h; exact .nil), fun h => (by cases h; rfl)⟩
  | cons field rest ih =>
    obtain ⟨key, node⟩ := field
    rw [resolveFields]
    simp only [except_bind_ok_iff, ih]
    constructor
    · rintro ⟨value, hvalue, others, hothers, h⟩
      obtain rfl := Except.ok.inj h
      exact .cons hvalue hothers
    · rintro (_ | ⟨hvalue, hothers⟩)
      exact ⟨_, hvalue, _, hothers, rfl⟩

theorem resolves_sequence_iff {items : List Node} {value : Value} :
    Resolves plugins env (.sequence items) value ↔
      ∃ values, value = .array values ∧ List.Forall₂ (Resolves plugins env) items values := by
  rw [Resolves, resolve]
  simp only [except_bind_ok_iff, resolveItems_ok_iff]
  exact ⟨fun ⟨values, h, he⟩ => ⟨values, (Except.ok.inj he).symm, h⟩,
    fun ⟨values, he, h⟩ => ⟨values, h, by rw [he]; rfl⟩⟩

theorem resolves_map_iff {fields : List (String × Node)} {value : Value} :
    Resolves plugins env (.map fields) value ↔
      ∃ values, value = .object values ∧ Fields.Forall₂ (Resolves plugins env) fields values := by
  rw [Resolves, resolve]
  simp only [except_bind_ok_iff, resolveFields_ok_iff]
  exact ⟨fun ⟨values, h, he⟩ => ⟨values, (Except.ok.inj he).symm, h⟩,
    fun ⟨values, he, h⟩ => ⟨values, h, by rw [he]; rfl⟩⟩

theorem prepareConfig_ok_iff {escape : Bool} {config : Node} {prepared : Value} :
    prepareConfig plugins escape config env = .ok prepared ↔
      ∃ value, Resolves plugins env config value ∧ prepared = prepare escape value := by
  unfold prepareConfig Resolves
  cases resolve plugins env config with
  | ok value => simp [Except.map, eq_comm]
  | error stop => simp [Except.map]

/-- Under each key a resolved map has the value of the node under it. -/
theorem get?_of_resolves {fields : List (String × Node)} {value : Value}
    (h : Resolves plugins env (.map fields) value) (key : String) :
    Option.Rel (Resolves plugins env) (fields.lookup key) (value.get? key) := by
  obtain ⟨values, rfl, hf⟩ := resolves_map_iff.1 h
  exact hf.lookup key

theorem get?_eq_none_of_resolves {fields : List (String × Node)} {value : Value} {key : String}
    (h : Resolves plugins env (.map fields) value) (hl : fields.lookup key = none) :
    value.get? key = none := by
  have hentry := get?_of_resolves h key
  rw [hl] at hentry
  generalize value.get? key = found at hentry
  cases hentry
  rfl

theorem exists_get?_of_resolves {fields : List (String × Node)} {value : Value} {key : String}
    {node : Node} (h : Resolves plugins env (.map fields) value)
    (hl : fields.lookup key = some node) :
    ∃ found, value.get? key = some found ∧ Resolves plugins env node found := by
  have hentry := get?_of_resolves h key
  rw [hl] at hentry
  generalize value.get? key = found at hentry
  cases hentry with
  | some hfound => exact ⟨_, rfl, hfound⟩

theorem exists_lookup_of_resolves {fields : List (String × Node)} {value found : Value}
    {key : String} (h : Resolves plugins env (.map fields) value)
    (hg : value.get? key = some found) :
    ∃ node, fields.lookup key = some node ∧ Resolves plugins env node found := by
  have hentry := get?_of_resolves h key
  rw [hg] at hentry
  generalize fields.lookup key = node at hentry
  cases hentry with
  | some hfound => exact ⟨_, rfl, hfound⟩

theorem get?_prepare (escape : Bool) (value : Value) (key : String) :
    (prepare escape value).get? key = (value.get? key).map (prepare escape) := by
  cases escape with
  | true => exact Value.get?_escapeHtml value key
  | false =>
    change value.get? key = (value.get? key).map id
    rw [Option.map_id]
    rfl

theorem firstTruthy_prepare (escape : Bool) (value : Value) (keys : List String) :
    (prepare escape value).firstTruthy keys = prepare escape (value.firstTruthy keys) := by
  cases escape with
  | true => exact Value.firstTruthy_escapeHtml value keys
  | false => rfl

theorem intoItems_prepare (escape : Bool) (value : Value) :
    (prepare escape value).intoItems = value.intoItems.map (prepare escape) := by
  cases escape with
  | true => exact Value.intoItems_escapeHtml value
  | false => exact (List.map_id' value.intoItems).symm

/-- A component is given the components that its config came to. -/
theorem everyElement_prepare {p : Invocation → Prop} {escape : Bool} {value : Value}
    (h : value.EveryElement p) : (prepare escape value).EveryElement p := by
  cases escape with
  | true => exact h.escapeHtml
  | false => exact h

/-- What a component receives under a key is the value of the node there, prepared. -/
theorem get?_of_prepareConfig {escape : Bool} {fields : List (String × Node)}
    {node : Node} {received found : Value} {key : String}
    (h : prepareConfig plugins escape (.map fields) env = .ok received)
    (hl : fields.lookup key = some node) (hn : Resolves plugins env node found) :
    received.get? key = some (prepare escape found) := by
  obtain ⟨value, hvalue, rfl⟩ := prepareConfig_ok_iff.1 h
  obtain ⟨entry, hentry, hresolves⟩ := exists_get?_of_resolves hvalue hl
  obtain rfl : entry = found := Except.ok.inj (hresolves.symm.trans hn)
  rw [get?_prepare, hentry]
  rfl

/-- A node of which the helpers always answer comes to a value. -/
theorem exists_resolves {node : Node}
    (hh : ∀ used, .invocation .helper used ∈ node.surface → ∀ config, ∃ value,
      callHelper plugins used.name used.plugin config env = .ok value) :
    ∃ value, Resolves plugins env node value := by
  induction node using Node.byParts with
  | bind reference => exact ⟨_, rfl⟩
  | invocation role name plugin config declaration ih =>
    cases role with
    | component => exact ⟨_, rfl⟩
    | helper =>
      obtain ⟨resolved, hresolved⟩ := ih fun used hm => hh used (List.mem_cons_of_mem _ hm)
      obtain ⟨value, hvalue⟩ := hh ⟨name, plugin, config, declaration⟩ List.mem_cons_self resolved
      exact ⟨value, except_bind_ok_iff.2 ⟨resolved, hresolved, hvalue⟩⟩
  | map fields ih =>
    obtain ⟨values, hvalues⟩ := Fields.Forall₂.exists_of_forall fun field hm =>
      ih field hm fun used h => hh used (Node.surface_subset_map hm h)
    exact ⟨_, resolves_map_iff.2 ⟨values, rfl, hvalues⟩⟩
  | sequence items ih =>
    obtain ⟨values, hvalues⟩ := exists_forall₂_iff.2 fun item hm =>
      ih item hm fun used h => hh used (Node.surface_subset_sequence hm h)
    exact ⟨_, resolves_sequence_iff.2 ⟨values, rfl, hvalues⟩⟩
  | scalar json => exact ⟨_, rfl⟩

/-- The components in the value of a node are those at its surface, those that its binds
find, and those that its helpers hand on. -/
theorem everyElement_of_resolves {p : Invocation → Prop} {node : Node} {value : Value}
    (h : Resolves plugins env node value)
    (hb : ∀ reference, .bind reference ∈ node.surface → (reference.evaluate env).EveryElement p)
    (hh : ∀ used, .invocation .helper used ∈ node.surface → ∀ config found,
      config.EveryElement p → callHelper plugins used.name used.plugin config env = .ok found →
        found.EveryElement p)
    (hc : ∀ used, .invocation .component used ∈ node.surface → p used) :
    value.EveryElement p := by
  induction node using Node.byParts generalizing value with
  | bind reference =>
    obtain rfl := Except.ok.inj h
    exact hb reference List.mem_cons_self
  | invocation role name plugin config declaration ih =>
    cases role with
    | component =>
      obtain rfl := Except.ok.inj h
      exact .element (hc ⟨name, plugin, config, declaration⟩ List.mem_cons_self)
    | helper =>
      rw [Resolves, resolve] at h
      obtain ⟨resolved, hresolved, hcall⟩ := except_bind_ok_iff.1 h
      have hconfig := ih hresolved (fun reference hm => hb reference (List.mem_cons_of_mem _ hm))
        (fun used hm => hh used (List.mem_cons_of_mem _ hm))
        (fun used hm => hc used (List.mem_cons_of_mem _ hm))
      exact hh ⟨name, plugin, config, declaration⟩ List.mem_cons_self resolved value hconfig hcall
  | map fields ih =>
    obtain ⟨values, rfl, hvalues⟩ := resolves_map_iff.1 h
    refine .object fun other hm => ?_
    obtain ⟨field, hf, -, hresolves⟩ := hvalues.exists_mem hm
    have below := Node.surface_subset_map hf
    exact ih field hf hresolves (fun reference h => hb reference (below h))
      (fun used h => hh used (below h)) (fun used h => hc used (below h))
  | sequence items ih =>
    obtain ⟨values, rfl, hvalues⟩ := resolves_sequence_iff.1 h
    refine .array fun other hm => ?_
    obtain ⟨item, hi, hresolves⟩ := exists_mem_of_forall₂ hvalues hm
    have below := Node.surface_subset_sequence hi
    exact ih item hi hresolves (fun reference h => hb reference (below h))
      (fun used h => hh used (below h)) (fun used h => hc used (below h))
  | scalar json =>
    obtain rfl := Except.ok.inj h
    exact Value.everyElement_ofJson p json

end Render

end DeclaredUi
