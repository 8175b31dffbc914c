import DeclaredUi.Proofs.Declaration.Grammar
import DeclaredUi.Proofs.KeyOrder
import DeclaredUi.Reference.Registry

/-! Parsing is blind to the order of keys. Two declarations that are equal up to it have
at each level the same keys with equal values, so their levels declare the same elements,
and both parse or neither does. Where both parse, the trees are equal up to the order of
keys too, and the warnings are the same in another order. -/

namespace DeclaredUi

/-! ## Parts that agree -/

namespace Parsed

variable {α β γ δ : Type}

/-- Both are faults, or both are results that are related and come with the same warnings
in some order. -/
inductive Agrees (R : α → β → Prop) : Parsed α → Parsed β → Prop
  | ok {a : α} {b : β} {warnings others : List Warning} :
      R a b → warnings.Perm others → Agrees R ⟨warnings, .ok a⟩ ⟨others, .ok b⟩
  | fault {fault other : ConfigurationFault} {warnings others : List Warning} :
      Agrees R ⟨warnings, .error fault⟩ ⟨others, .error other⟩

namespace Agrees

variable {R : α → β → Prop} {S : γ → δ → Prop} {parsed : Parsed α} {other : Parsed β}

theorem pure {a : α} {b : β} (h : R a b) : Agrees R (Pure.pure a) (Pure.pure b) :=
  .ok h (.refl [])

theorem refl (parsed : Parsed α) : Agrees (· = ·) parsed parsed := by
  obtain ⟨warnings, result⟩ := parsed
  cases result with
  | ok a => exact .ok rfl (.refl _)
  | error fault => exact .fault

theorem bind {next : α → Parsed γ} {follow : β → Parsed δ} (h : Agrees R parsed other)
    (hnext : ∀ a b, other.result = .ok b → R a b → Agrees S (next a) (follow b)) :
    Agrees S (parsed >>= next) (other >>= follow) := by
  cases h with
  | fault => exact .fault
  | @ok a b warnings others hab hperm =>
    have hrest := hnext a b rfl hab
    show Agrees S ⟨warnings ++ (next a).warnings, (next a).result⟩
      ⟨others ++ (follow b).warnings, (follow b).result⟩
    generalize next a = after, follow b = behind at hrest
    cases hrest with
    | fault => exact .fault
    | ok hcd hafter => exact .ok hcd (hperm.append hafter)

/-- Two parts may be parsed in either order. -/
theorem bind_comm (first : Parsed α) (second : Parsed β) {next : α → β → Parsed γ}
    {follow : α → β → Parsed δ} (h : ∀ a b, Agrees S (next a b) (follow a b)) :
    Agrees S (first >>= fun a => second >>= fun b => next a b)
      (second >>= fun b => first >>= fun a => follow a b) := by
  obtain ⟨warnings, result⟩ := first
  obtain ⟨others, outcome⟩ := second
  cases result with
  | error fault => cases outcome <;> exact .fault
  | ok a =>
    cases outcome with
    | error fault => exact .fault
    | ok b =>
      have hrest := h a b
      show Agrees S ⟨warnings ++ (others ++ (next a b).warnings), (next a b).result⟩
        ⟨others ++ (warnings ++ (follow a b).warnings), (follow a b).result⟩
      generalize next a b = after, follow a b = behind at hrest
      cases hrest with
      | fault => exact .fault
      | ok hcd hafter =>
        exact .ok hcd ((List.perm_append_comm_assoc _ _ _).trans
          ((hafter.append_left _).append_left _))

theorem imp {Q : α → β → Prop} (h : Agrees R parsed other) (hi : ∀ a b, R a b → Q a b) :
    Agrees Q parsed other := by
  cases h with
  | fault => exact .fault
  | ok hab hperm => exact .ok (hi _ _ hab) hperm

theorem trans {Q : β → γ → Prop} {last : Parsed γ} (h : Agrees R parsed other)
    (hlast : Agrees Q other last) : Agrees (fun a c => ∃ b, R a b ∧ Q b c) parsed last := by
  cases h with
  | fault =>
    cases hlast with
    | fault => exact .fault
  | ok hab hperm =>
    cases hlast with
    | ok hbc hbehind => exact .ok ⟨_, hab, hbc⟩ (hperm.trans hbehind)

theorem ok_iff (h : Agrees R parsed other) :
    (∃ a, parsed.result = .ok a) ↔ ∃ b, other.result = .ok b := by
  cases h with
  | ok _ _ => exact ⟨fun _ => ⟨_, rfl⟩, fun _ => ⟨_, rfl⟩⟩
  | fault =>
    constructor
    · intro ⟨_, h⟩
      cases h
    · intro ⟨_, h⟩
      cases h

theorem of_ok (h : Agrees R parsed other) {a : α} {b : β} (ha : parsed.result = .ok a)
    (hb : other.result = .ok b) : R a b ∧ parsed.warnings.Perm other.warnings := by
  cases h with
  | ok hab hperm =>
    obtain rfl := Except.ok.inj ha
    obtain rfl := Except.ok.inj hb
    exact ⟨hab, hperm⟩
  | fault => cases ha

end Agrees

end Parsed

namespace Declaration

variable {registry : Registry} {fields others : List (String × Json)}

/-! ## Levels -/

/-- Two levels with the same keys and the same explicit names. -/
structure SameNames (registry : Registry) (fields others : List (String × Json)) : Prop where
  keys_perm : (Fields.keys fields).Perm (Fields.keys others)
  explicit_iff : ∀ key found,
    explicitEntry registry fields key = .ok found ↔ explicitEntry registry others key = .ok found

theorem SameNames.symm (h : SameNames registry fields others) :
    SameNames registry others fields where
  keys_perm := h.keys_perm.symm
  explicit_iff key found := (h.explicit_iff key found).symm

theorem lookup_eq_iff {key : String} {scalar : Json}
    (hscalar : ∀ a b, Json.Equal a b → (a = scalar ↔ b = scalar))
    (h : Option.Rel Json.Equal (fields.lookup key) (others.lookup key)) :
    fields.lookup key = some scalar ↔ others.lookup key = some scalar := by
  generalize fields.lookup key = value, others.lookup key = other at h ⊢
  cases h with
  | none => rfl
  | some heq => simpa using hscalar _ _ heq

theorem sameNames_of_matched (hu : Fields.Unique others)
    (h : Fields.Matched Json.Equal fields others) :
    SameNames registry fields others where
  keys_perm := h.keys_perm
  explicit_iff key found := by
    have hlookup := h.lookup hu key
    have hnone : fields.lookup key = none ↔ others.lookup key = none := by
      rw [Fields.lookup_eq_none_iff, Fields.lookup_eq_none_iff, h.keys_perm.mem_iff]
    simp only [explicitEntry_ok_iff, hnone, lookup_eq_iff (fun _ _ => Json.eq_null_iff) hlookup,
      lookup_eq_iff (fun _ _ => Json.eq_string_iff) hlookup]

theorem SameNames.candidates (h : SameNames registry fields others) {found : List Candidate}
    (hfound : Declaration.candidates registry fields = .ok found) :
    ∃ again, Declaration.candidates registry others = .ok again ∧ found.Perm again := by
  obtain ⟨component, helper, hcomponent, hhelper, rfl⟩ := candidates_ok_iff.1 hfound
  refine ⟨candidateList registry others component helper, candidates_ok_iff.2 ⟨component, helper,
    (h.explicit_iff _ _).1 hcomponent, (h.explicit_iff _ _).1 hhelper, rfl⟩, ?_⟩
  have hshorthands : (shorthandEntries registry (Fields.keys fields)).Perm
      (shorthandEntries registry (Fields.keys others)) :=
    (h.keys_perm.filterMap shorthand?).filterMap registry.get?
  have hbind : (fields.lookup bindKey).isSome = (others.lookup bindKey).isSome := by
    rw [Bool.eq_iff_iff, Fields.isSome_lookup_iff, Fields.isSome_lookup_iff, h.keys_perm.mem_iff]
  unfold candidateList
  rw [hbind]
  exact (((hshorthands.append_right _).append_right _).map _).append_right _

/-- Levels with the same names declare the same element, if any, and warn of the same
keys. -/
theorem level_agrees (h : SameNames registry fields others) :
    (level registry fields).Agrees (· = ·) (level registry others) := by
  have hwarnings : ((Fields.keys fields).filterMap (warning? registry)).Perm
      ((Fields.keys others).filterMap (warning? registry)) := h.keys_perm.filterMap _
  unfold level
  cases hfields : candidates registry fields with
  | error fault =>
    cases hothers : candidates registry others with
    | error other => exact .fault
    | ok again =>
      obtain ⟨found, hfound, -⟩ := h.symm.candidates hothers
      rw [hfields] at hfound
      cases hfound
  | ok found =>
    obtain ⟨again, hothers, hperm⟩ := h.candidates hfields
    rw [hothers]
    match found, again, hperm with
    | [], again, hperm =>
      obtain rfl := hperm.nil_eq
      exact .ok rfl hwarnings
    | [candidate], again, hperm =>
      obtain rfl := List.singleton_perm.1 hperm
      exact .ok rfl hwarnings
    | _ :: _ :: _, [], hperm => cases hperm.length_eq
    | _ :: _ :: _, [_], hperm => cases hperm.length_eq
    | _ :: _ :: _, _ :: _ :: _, hperm => exact .fault

/-- Equal levels are read as equal binds. -/
theorem bindOf_agrees (h : Json.Equal (.object fields) (.object others))
    (hlookup : Option.Rel Json.Equal (fields.lookup bindKey) (others.lookup bindKey)) :
    Parsed.Agrees Node.Equal ⟨[], (bindOf fields).map Node.bind⟩
      ⟨[], (bindOf others).map Node.bind⟩ := by
  have hpath : ∀ path, (fields.lookup bindKey).getD .null = .string path ↔
      (others.lookup bindKey).getD .null = .string path := by
    intro path
    generalize fields.lookup bindKey = value, others.lookup bindKey = other at hlookup ⊢
    cases hlookup with
    | none => rfl
    | some heq => exact Json.eq_string_iff heq
  cases hfields : (bindOf fields).map Node.bind with
  | error fault =>
    cases hothers : (bindOf others).map Node.bind with
    | error other => exact .fault
    | ok node =>
      obtain ⟨path, hpath', rfl⟩ := bindOf_ok_iff.1 hothers
      have hback := bindOf_ok_iff.2 ⟨path, (hpath path).2 hpath', rfl⟩
      rw [hfields] at hback
      cases hback
  | ok node =>
    obtain ⟨path, hpath', rfl⟩ := bindOf_ok_iff.1 hfields
    rw [bindOf_ok_iff.2 ⟨path, (hpath path).1 hpath', rfl⟩]
    exact .ok (Bool.and_eq_true_iff.2 ⟨beq_self_eq_true path, h⟩) (.refl [])

/-! ## Declarations -/

/-- Two equal declarations that parse to equal trees, if they parse at all. -/
structure ParsedAlike (registry : Registry) (a b : Json) : Prop where
  equal : Json.Equal a b
  agrees : (parseNode registry a).Agrees Node.Equal (parseNode registry b)

theorem parseItems_agrees {items others : List Json}
    (h : List.Forall₂ (ParsedAlike registry) items others) :
    (parseItems registry items).Agrees (List.Forall₂ Node.Equal)
      (parseItems registry others) := by
  induction h with
  | nil => exact .pure .nil
  | cons hitem _ ih =>
    rw [parseItems, parseItems]
    refine hitem.agrees.bind fun node other _ hnode => ?_
    refine ih.bind fun nodes others _ hnodes => ?_
    exact .pure (.cons hnode hnodes)

/-- The same keys in the same order. -/
theorem parseFields_agrees_of_forall₂
    (h : Fields.Forall₂ (ParsedAlike registry) fields others) :
    (parseFields registry fields).Agrees (Fields.Forall₂ Node.Equal)
      (parseFields registry others) := by
  induction h with
  | nil => exact .pure .nil
  | @cons key value other _ _ hvalue _ ih =>
    rw [parseFields_cons, parseFields_cons]
    have hnode : Parsed.Agrees Node.Equal
        (if key = componentKey ∨ key = helperKey then pure (.scalar value)
          else parseNode registry value)
        (if key = componentKey ∨ key = helperKey then pure (.scalar other)
          else parseNode registry other) := by
      split
      · exact .pure hvalue.equal
      · exact hvalue.agrees
    refine hnode.bind fun node other _ hnode => ?_
    refine ih.bind fun nodes others _ hnodes => ?_
    exact .pure (.cons hnode hnodes)

/-- The same fields in another order. -/
theorem parseFields_agrees_of_perm (h : fields.Perm others) :
    (parseFields registry fields).Agrees List.Perm (parseFields registry others) := by
  induction h with
  | nil => exact .pure .nil
  | cons field _ ih =>
    rw [parseFields_cons, parseFields_cons]
    refine (Parsed.Agrees.refl _).bind fun node other _ hnode => ?_
    obtain rfl := hnode
    exact ih.bind fun nodes others _ hnodes => .pure (hnodes.cons _)
  | swap field other rest =>
    simp only [parseFields_cons, bind_assoc, pure_bind]
    refine .bind_comm _ _ fun node again => ?_
    refine (Parsed.Agrees.refl _).bind fun nodes others _ hnodes => ?_
    obtain rfl := hnodes
    exact .pure (.swap _ _ _)
  | trans _ _ ih ih' =>
    refine (ih.trans ih').imp ?_
    rintro nodes last ⟨middle, hfirst, hlast⟩
    exact hfirst.trans hlast

theorem parseFields_agrees (h : Fields.Matched (ParsedAlike registry) fields others) :
    (parseFields registry fields).Agrees (Fields.Matched Node.Equal)
      (parseFields registry others) := by
  obtain ⟨middle, hrelated, hperm⟩ := h
  exact (parseFields_agrees_of_forall₂ hrelated).trans (parseFields_agrees_of_perm hperm)

/-- Equal objects agree if their equal values do. -/
theorem parseNode_object_agrees (hu : Fields.Unique fields) (hothers : Fields.Unique others)
    (h : Json.Equal (.object fields) (.object others))
    (hvalues : ∀ field ∈ fields, ∀ other ∈ others, Json.Equal field.2 other.2 →
      (parseNode registry field.2).Agrees Node.Equal (parseNode registry other.2)) :
    (parseNode registry (.object fields)).Agrees Node.Equal
      (parseNode registry (.object others)) := by
  have hmatched := (Json.equal_object_iff hu hothers).1 h
  have hconfig : (parseFields registry fields).Agrees (Fields.Matched Node.Equal)
      (parseFields registry others) :=
    parseFields_agrees (hmatched.imp_of_mem
      fun field hm other ho heq => ⟨heq, hvalues field hm other ho heq⟩)
  have hmap : ∀ nodes again, (parseFields registry others).result = .ok again →
      Fields.Matched Node.Equal nodes again → Node.Equal (.map nodes) (.map again) := by
    intro nodes again hagain hnodes
    have hunique : Fields.Unique again := by
      unfold Fields.Unique
      rw [keys_of_kept (parseFields_ok_iff.1 hagain)]
      exact hothers
    exact (Node.equal_map_iff (hnodes.keys_perm.nodup_iff.2 hunique) hunique).2 hnodes
  rw [parseNode, parseNode]
  refine (level_agrees (sameNames_of_matched hothers hmatched)).bind fun found again _ hfound => ?_
  obtain rfl := hfound
  cases found with
  | none => exact hconfig.bind fun nodes again hagain hnodes => .pure (hmap _ _ hagain hnodes)
  | some candidate =>
    cases candidate with
    | bind => exact bindOf_agrees h (hmatched.lookup hothers bindKey)
    | entry entry =>
      refine hconfig.bind fun nodes again hagain hnodes => .pure ?_
      have hnames : (entry.role == entry.role && entry.name == entry.name &&
          entry.plugin == entry.plugin) = true := by simp
      exact Bool.and_eq_true_iff.2
        ⟨Bool.and_eq_true_iff.2 ⟨hnames, hmap _ _ hagain hnodes⟩, h⟩

theorem parseNode_agrees (registry : Registry) {a b : Json} (ha : a.KeysUnique)
    (hb : b.KeysUnique) (h : Json.Equal a b) :
    (parseNode registry a).Agrees Node.Equal (parseNode registry b) := by
  induction a using Json.byParts generalizing b with
  | array items ih =>
    cases b with
    | array others =>
      have hitems := Json.keysUnique_array_iff.1 ha
      have hothers := Json.keysUnique_array_iff.1 hb
      have halike : List.Forall₂ (ParsedAlike registry) items others :=
        forall₂_imp_of_mem (Json.equal_array_iff.1 h) fun item hm other ho heq =>
          ⟨heq, ih item hm (hitems item hm) (hothers other ho) heq⟩
      rw [parseNode, parseNode]
      refine (parseItems_agrees halike).bind fun nodes again _ hnodes => .pure ?_
      exact Node.equal_sequence_iff.2 hnodes
    | _ => cases h
  | object fields ih =>
    cases b with
    | object others =>
      obtain ⟨hunique, hfields⟩ := Json.keysUnique_object_iff.1 ha
      obtain ⟨hagain, hothers⟩ := Json.keysUnique_object_iff.1 hb
      exact parseNode_object_agrees hunique hagain h fun field hm other ho heq =>
        ih field hm (hfields field hm) (hothers other ho) heq
    | _ => cases h
  | null =>
    cases b with
    | null => exact .pure rfl
    | _ => cases h
  | bool value =>
    cases b with
    | bool other => exact .pure h
    | _ => cases h
  | number value =>
    cases b with
    | number other => exact .pure h
    | _ => cases h
  | string value =>
    cases b with
    | string other => exact .pure h
    | _ => cases h

theorem parse_agrees (registry : Registry) {a b : Json} (ha : a.KeysUnique)
    (hb : b.KeysUnique) (h : Json.Equal a b) :
    (parse registry a).Agrees (fun root other => (root == other) = true)
      (parse registry b) := by
  have hnode := parseNode_agrees registry ha hb h
  unfold parse
  cases a with
  | object fields =>
    cases b with
    | object others =>
      refine hnode.bind fun node other _ hequal => ?_
      -- Equal trees have elements of one role at the root.
      cases node with
      | invocation role name plugin config declaration =>
        cases other with
        | invocation role' name' plugin' config' declaration' =>
          obtain ⟨hrest, hdeclaration⟩ := Bool.and_eq_true_iff.1 hequal
          obtain ⟨hnames, hconfig⟩ := Bool.and_eq_true_iff.1 hrest
          obtain ⟨⟨rfl, rfl⟩, rfl⟩ : (role = role' ∧ name = name') ∧ plugin = plugin' := by
            simpa using hnames
          cases role with
          | helper => exact .fault
          | component =>
            have hsame : (name == name && plugin == plugin) = true := by simp
            exact .pure (Bool.and_eq_true_iff.2
              ⟨Bool.and_eq_true_iff.2 ⟨hsame, hconfig⟩, hdeclaration⟩)
        | _ => cases hequal
      | _ =>
        cases other with
        | invocation _ _ _ _ _ => cases hequal
        | _ => exact .fault
    | _ => cases h
  | _ =>
    cases b with
    | object others => cases h
    | _ => exact .fault

/-- What a declaration means does not depend on the order of its keys. Of two declarations
that are equal up to the order of keys at every depth both parse or neither does. Where they
parse, their roots are equal and their warnings are the same up to order. -/
theorem parse_up_to_key_order (registry : Registry) {a b : Json} (ha : a.KeysUnique)
    (hb : b.KeysUnique) (h : (a == b) = true) :
    ((∃ root, (parse registry a).result = .ok root) ↔
        ∃ root, (parse registry b).result = .ok root) ∧
      ∀ root other, (parse registry a).result = .ok root →
        (parse registry b).result = .ok other →
        (root == other) = true ∧ (parse registry a).warnings.Perm (parse registry b).warnings := by
  have hagree := parse_agrees registry ha hb h
  exact ⟨hagree.ok_iff, fun root other hroot hother => hagree.of_ok hroot hother⟩

/-- A box of a caption that two keys without a plug-in stand beside. -/
def shelf : Json :=
  .object [("gap", .object [("x", .number (.integer 1)), ("y", .array [])]),
    ("$vbox", .array [.object [("$rank", .null), ("$text", .object [("$bind", .string "title"),
      ("note", .null)]), ("$draft", .null)]])]

def shuffledShelf : Json :=
  .object [("$vbox", .array [.object [("$draft", .null), ("$text", .object [("note", .null),
      ("$bind", .string "title")]), ("$rank", .null)]]),
    ("gap", .object [("y", .array []), ("x", .number (.integer 1))])]

theorem shelf_up_to_key_order :
    ∃ root other, (parse Reference.registry shelf).result = .ok root ∧
      (parse Reference.registry shuffledShelf).result = .ok other ∧ (root == other) = true ∧
      (parse Reference.registry shelf).warnings ≠
        (parse Reference.registry shuffledShelf).warnings ∧
      (parse Reference.registry shelf).warnings.Perm
        (parse Reference.registry shuffledShelf).warnings := by
  have hshelf : shelf.KeysUnique := by
    simp [shelf, Json.keysUnique_object_iff, Json.keysUnique_array_iff, Fields.Unique,
      Json.KeysUnique.null, Json.KeysUnique.string, Json.KeysUnique.number]
  have hshuffled : shuffledShelf.KeysUnique := by
    simp [shuffledShelf, Json.keysUnique_object_iff, Json.keysUnique_array_iff, Fields.Unique,
      Json.KeysUnique.null, Json.KeysUnique.string, Json.KeysUnique.number]
  obtain ⟨-, hagree⟩ := parse_up_to_key_order Reference.registry hshelf hshuffled (by decide)
  obtain ⟨hequal, hwarnings⟩ := hagree _ _ rfl rfl
  exact ⟨_, _, rfl, rfl, hequal, by decide, hwarnings⟩

end Declaration

end DeclaredUi
