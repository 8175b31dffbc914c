import DeclaredUi.Declaration.Parse
import DeclaredUi.Proofs.Parts

/-! Successful parsing taken apart. A level that parses has candidates without a
fault, and what becomes of it is told by them: none makes it data, a bind makes it
a bind, an entry makes it an invocation whose config holds the parsed fields. -/

namespace DeclaredUi

namespace Parsed

variable {α β : Type}

theorem bind_ok_iff {parsed : Parsed α} {next : α → Parsed β} {b : β} :
    (parsed >>= next).result = .ok b ↔
      ∃ a, parsed.result = .ok a ∧ (next a).result = .ok b := by
  obtain ⟨warnings, result⟩ := parsed
  change (Parsed.bind ⟨warnings, result⟩ next).result = .ok b ↔ _
  cases result with
  | error fault => simp [Parsed.bind]
  | ok a => simp [Parsed.bind]

theorem ok_bind (warnings : List Warning) (a : α) (next : α → Parsed β) :
    (⟨warnings, .ok a⟩ >>= next : Parsed β) =
      ⟨warnings ++ (next a).warnings, (next a).result⟩ := rfl

theorem pure_ok_iff {a b : α} : (pure a : Parsed α).result = .ok b ↔ b = a := by
  change (Except.ok a : Except ConfigurationFault α) = .ok b ↔ _
  rw [Except.ok.injEq, eq_comm]

end Parsed

namespace Declaration

variable {registry : Registry} {fields : List (String × Json)}

/-! ## The candidates of a level -/

theorem explicitEntry_ok_iff {key : String} {found : Option Registry.Entry} :
    explicitEntry registry fields key = .ok found ↔
      (fields.lookup key = none ∨ fields.lookup key = some .null) ∧ found = none ∨
      ∃ name entry, fields.lookup key = some (.string name) ∧ unmark? name = none ∧
        registry.get? name = some entry ∧ found = some entry := by
  unfold explicitEntry
  cases hl : fields.lookup key with
  | none => simp [eq_comm]
  | some value =>
    cases value with
    | null => simp [eq_comm]
    | string name =>
      cases hu : unmark? name with
      | some rest => simp [hu]
      | none =>
        cases hg : registry.get? name with
        | none => simp [hu, hg]
        | some entry => simp [hu, hg, eq_comm]
    | _ => simp

/-- The candidates of a level whose explicit names are in order. -/
def candidateList (registry : Registry) (fields : List (String × Json))
    (component helper : Option Registry.Entry) : List Candidate :=
  (shorthandEntries registry (Fields.keys fields) ++ component.toList ++ helper.toList).map
      .entry ++
    if (fields.lookup bindKey).isSome then [.bind] else []

theorem candidates_ok_iff {found : List Candidate} :
    candidates registry fields = .ok found ↔
      ∃ component helper, explicitEntry registry fields componentKey = .ok component ∧
        explicitEntry registry fields helperKey = .ok helper ∧
        found = candidateList registry fields component helper := by
  unfold candidates
  simp only [except_bind_ok_iff]
  constructor
  · rintro ⟨component, hc, helper, hh, h⟩
    exact ⟨component, helper, hc, hh, (Except.ok.inj h).symm⟩
  · rintro ⟨component, helper, hc, hh, rfl⟩
    exact ⟨component, hc, helper, hh, rfl⟩

/-- A level without explicit names declares what its other keys name. -/
theorem candidates_of_unnamed (hcomponent : componentKey ∉ Fields.keys fields)
    (hhelper : helperKey ∉ Fields.keys fields) :
    candidates registry fields = .ok (candidateList registry fields none none) :=
  candidates_ok_iff.2 ⟨none, none,
    explicitEntry_ok_iff.2 (.inl ⟨.inl (Fields.lookup_eq_none_iff.2 hcomponent), rfl⟩),
    explicitEntry_ok_iff.2 (.inl ⟨.inl (Fields.lookup_eq_none_iff.2 hhelper), rfl⟩), rfl⟩

theorem level_ok_none_iff :
    (level registry fields).result = .ok none ↔ candidates registry fields = .ok [] := by
  unfold level
  rcases candidates registry fields with fault | _ | ⟨candidate, _ | ⟨other, rest⟩⟩ <;>
    constructor <;> intro h <;> first | rfl | cases h

theorem level_ok_some_iff {candidate : Candidate} :
    (level registry fields).result = .ok (some candidate) ↔
      candidates registry fields = .ok [candidate] := by
  unfold level
  rcases candidates registry fields with fault | _ | ⟨found, _ | ⟨other, rest⟩⟩ <;>
    constructor <;> intro h <;> first | rfl | cases h
  all_goals rfl

/-! ## The values of a level -/

/-- A field of a level as it is kept: the value of an explicit name as it is
written, any other value parsed. -/
def Kept (registry : Registry) (field : String × Json) (kept : String × Node) : Prop :=
  field.1 = kept.1 ∧
    if field.1 = componentKey ∨ field.1 = helperKey then kept.2 = .scalar field.2
    else (parseNode registry field.2).result = .ok kept.2

theorem keys_of_kept {nodes : List (String × Node)} (h : List.Forall₂ (Kept registry) fields nodes) :
    Fields.keys nodes = Fields.keys fields := by
  induction h with
  | nil => rfl
  | cons hk _ ih => rw [Fields.keys_cons, Fields.keys_cons, hk.1, ih]

theorem parseItems_ok_iff {items : List Json} {nodes : List Node} :
    (parseItems registry items).result = .ok nodes ↔
      List.Forall₂ (fun item node => (parseNode registry item).result = .ok node) items nodes := by
  induction items generalizing nodes with
  | nil => rw [parseItems, Parsed.pure_ok_iff, List.forall₂_nil_left_iff]
  | cons item rest ih =>
    rw [parseItems, List.forall₂_cons_left_iff]
    simp only [Parsed.bind_ok_iff, Parsed.pure_ok_iff, ih]
    constructor
    · rintro ⟨node, hnode, others, hothers, rfl⟩
      exact ⟨node, others, hnode, hothers, rfl⟩
    · rintro ⟨node, others, hnode, hothers, rfl⟩
      exact ⟨node, hnode, others, hothers, rfl⟩

theorem parseNode_array_ok_iff {items : List Json} {node : Node} :
    (parseNode registry (.array items)).result = .ok node ↔
      ∃ nodes, node = .sequence nodes ∧
        List.Forall₂ (fun item node => (parseNode registry item).result = .ok node)
          items nodes := by
  rw [parseNode]
  simp only [Parsed.bind_ok_iff, Parsed.pure_ok_iff, parseItems_ok_iff]
  constructor
  · rintro ⟨nodes, hnodes, rfl⟩
    exact ⟨nodes, rfl, hnodes⟩
  · rintro ⟨nodes, rfl, hnodes⟩
    exact ⟨nodes, hnodes, rfl⟩

theorem parseFields_cons (field : String × Json) (rest : List (String × Json)) :
    parseFields registry (field :: rest) =
      (if field.1 = componentKey ∨ field.1 = helperKey then pure (.scalar field.2)
        else parseNode registry field.2) >>= fun node =>
      parseFields registry rest >>= fun nodes => pure ((field.1, node) :: nodes) := by
  rw [parseFields]
  split <;> rfl

theorem parseFields_ok_iff {nodes : List (String × Node)} :
    (parseFields registry fields).result = .ok nodes ↔
      List.Forall₂ (Kept registry) fields nodes := by
  induction fields generalizing nodes with
  | nil => rw [parseFields, Parsed.pure_ok_iff, List.forall₂_nil_left_iff]
  | cons field rest ih =>
    have hvalue : ∀ node, (if field.1 = componentKey ∨ field.1 = helperKey then
        (pure (.scalar field.2) : Parsed Node) else parseNode registry field.2).result =
          .ok node ↔ Kept registry field (field.1, node) := by
      intro node
      unfold Kept
      split
      · rw [Parsed.pure_ok_iff, and_iff_right rfl]
      · rw [and_iff_right rfl]
    rw [parseFields_cons, List.forall₂_cons_left_iff]
    simp only [Parsed.bind_ok_iff, Parsed.pure_ok_iff, ih, hvalue]
    constructor
    · rintro ⟨node, hnode, others, hothers, rfl⟩
      exact ⟨(field.1, node), others, hnode, hothers, rfl⟩
    · rintro ⟨⟨key, node⟩, others, hnode, hothers, rfl⟩
      obtain rfl : field.1 = key := hnode.1
      exact ⟨node, hnode, others, hothers, rfl⟩

/-! ## What becomes of a level -/

theorem bindOf_ok_iff {node : Node} :
    (bindOf fields).map Node.bind = .ok node ↔
      ∃ path, (fields.lookup bindKey).getD .null = .string path ∧
        node = .bind ⟨path, .object fields⟩ := by
  unfold bindOf
  cases (fields.lookup bindKey).getD .null <;> simp [Except.map, eq_comm]

/-- The three ways in which a map parses. -/
theorem parseNode_object_ok_iff {node : Node} :
    (parseNode registry (.object fields)).result = .ok node ↔
      (candidates registry fields = .ok [] ∧
        ∃ nodes, List.Forall₂ (Kept registry) fields nodes ∧ node = .map nodes) ∨
      (candidates registry fields = .ok [.bind] ∧
        ∃ path, (fields.lookup bindKey).getD .null = .string path ∧
          node = .bind ⟨path, .object fields⟩) ∨
      ∃ entry, candidates registry fields = .ok [.entry entry] ∧
        ∃ nodes, List.Forall₂ (Kept registry) fields nodes ∧
          node = .invocation entry.role entry.name entry.plugin (.map nodes) (.object fields) := by
  rw [parseNode, Parsed.bind_ok_iff]
  constructor
  · rintro ⟨_ | _ | entry, hlevel, h⟩
    · rw [Parsed.bind_ok_iff] at h
      obtain ⟨nodes, hnodes, h⟩ := h
      exact .inl ⟨level_ok_none_iff.1 hlevel, nodes, parseFields_ok_iff.1 hnodes,
        Parsed.pure_ok_iff.1 h⟩
    · rw [Parsed.bind_ok_iff] at h
      obtain ⟨nodes, hnodes, h⟩ := h
      exact .inr (.inr ⟨_, level_ok_some_iff.1 hlevel, nodes, parseFields_ok_iff.1 hnodes,
        Parsed.pure_ok_iff.1 h⟩)
    · exact .inr (.inl ⟨level_ok_some_iff.1 hlevel, bindOf_ok_iff.1 h⟩)
  · rintro (⟨hlevel, nodes, hnodes, rfl⟩ | ⟨hlevel, path, hpath, rfl⟩ |
      ⟨entry, hlevel, nodes, hnodes, rfl⟩)
    · refine ⟨none, level_ok_none_iff.2 hlevel, ?_⟩
      exact Parsed.bind_ok_iff.2 ⟨nodes, parseFields_ok_iff.2 hnodes, rfl⟩
    · exact ⟨some .bind, level_ok_some_iff.2 hlevel, bindOf_ok_iff.2 ⟨path, hpath, rfl⟩⟩
    · refine ⟨some (.entry entry), level_ok_some_iff.2 hlevel, ?_⟩
      exact Parsed.bind_ok_iff.2 ⟨nodes, parseFields_ok_iff.2 hnodes, rfl⟩

/-- A level without reserved keys that names one element is this element. -/
theorem parseNode_of_shorthand {entry : Registry.Entry} {nodes : List (String × Node)}
    (hunreserved : ∀ key ∈ reservedKeys, key ∉ Fields.keys fields)
    (hentry : shorthandEntries registry (Fields.keys fields) = [entry])
    (hnodes : List.Forall₂ (fun field kept => field.1 = kept.1 ∧
      (parseNode registry field.2).result = .ok kept.2) fields nodes) :
    (parseNode registry (.object fields)).result =
      .ok (.invocation entry.role entry.name entry.plugin (.map nodes) (.object fields)) := by
  simp only [reservedKeys, List.mem_cons, List.not_mem_nil, or_false, forall_eq_or_imp,
    forall_eq] at hunreserved
  obtain ⟨hcomponent, hhelper, hbind⟩ := hunreserved
  have hcandidates : candidates registry fields = .ok [.entry entry] := by
    rw [candidates_of_unnamed hcomponent hhelper, candidateList, hentry,
      Fields.lookup_eq_none_iff.2 hbind]
    rfl
  have hkept : List.Forall₂ (Kept registry) fields nodes := by
    refine forall₂_imp_of_mem hnodes fun field hm kept _ h => ⟨h.1, ?_⟩
    have hkey : field.1 ∈ Fields.keys fields := List.mem_map_of_mem hm
    rw [if_neg (not_or.2 ⟨ne_of_mem_of_not_mem hkey hcomponent, ne_of_mem_of_not_mem hkey hhelper⟩)]
    exact h.2
  exact parseNode_object_ok_iff.2 (.inr (.inr ⟨entry, hcandidates, nodes, hkept, rfl⟩))

end Declaration

end DeclaredUi
