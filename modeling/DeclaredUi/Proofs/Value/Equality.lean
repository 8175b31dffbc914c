import DeclaredUi.Proofs.Equality
import DeclaredUi.Proofs.Value.Shape

/-! Equality of values up to the order of keys is an equivalence, and what reads a value
cannot tell equal values apart. A step of a path leads to equal values or nowhere from
either, so whole paths do, and all that truthiness looks at is the same in both. -/

namespace DeclaredUi

namespace Value

/-- Equal up to the order of keys, foreign values by identity. -/
abbrev Equal (a b : Value) : Prop := (a == b) = true

theorem beqItems_eq_isEqv (items others : List Value) :
    beqItems items others = items.isEqv others beq := by
  induction items generalizing others with
  | nil => cases others <;> rfl
  | cons item rest ih => cases others <;> simp [beqItems, List.isEqv, ih]

theorem beqFields_eq_all (fields others : List (String × Value)) :
    beqFields fields others =
      fields.all fun field => (others.lookup field.1).any (beq field.2) := by
  induction fields with
  | nil => rfl
  | cons field rest ih =>
    rw [beqFields, List.all_cons, ih]
    cases others.lookup field.1 <;> rfl

theorem equal_array_iff {items others : List Value} :
    Equal (.array items) (.array others) ↔ List.Forall₂ Equal items others := by
  show beqItems items others = true ↔ _
  rw [beqItems_eq_isEqv]
  exact isEqv_iff_forall₂

/-- Equal objects have the same keys with equal values. -/
theorem equal_object_iff {fields others : List (String × Value)} (hu : Fields.Unique fields)
    (hothers : Fields.Unique others) :
    Equal (.object fields) (.object others) ↔ Fields.Matched Equal fields others := by
  show (fields.length == others.length && beqFields fields others) = true ↔ _
  rw [beqFields_eq_all]
  exact Fields.matched_iff hu hothers

/-- A value is equal to itself, and what it is equal to is equal to each other. -/
theorem central {a : Value} (h : a.KeysUnique) : Central KeysUnique Equal a := by
  induction a using Value.byParts with
  | null =>
    refine .of_eq rfl fun b hb => ?_
    cases b with
    | null => rfl
    | _ => cases hb
  | bool value =>
    refine .of_eq (beq_self_eq_true value) fun b hb => ?_
    cases b with
    | bool other => exact congrArg Value.bool (eq_of_beq hb)
    | _ => cases hb
  | number value =>
    refine (Number.central value).of_content trivial (fun _ => trivial) (fun _ _ => .rfl) ?_
    intro other hb
    cases other with
    | number other => exact ⟨other, rfl⟩
    | _ => cases hb
  | string value =>
    refine .of_eq (beq_self_eq_true value) fun b hb => ?_
    cases b with
    | string other => exact congrArg Value.string (eq_of_beq hb)
    | _ => cases hb
  | array items ih =>
    have hitems := h.of_array
    have hcentral := Central.items fun item hm => ih item hm (hitems item hm)
    refine hcentral.of_content hitems KeysUnique.of_array (fun _ _ => equal_array_iff) ?_
    intro other hb
    cases other with
    | array others => exact ⟨others, rfl⟩
    | _ => cases hb
  | object fields ih =>
    have hfields := h.of_object
    have hcentral := Central.fields hfields.1 fun field hm => ih field hm (hfields.2 field hm)
    refine hcentral.of_content hfields KeysUnique.of_object
      (fun ha hb => equal_object_iff ha.1 hb.1) ?_
    intro other hb
    cases other with
    | object others => exact ⟨others, rfl⟩
    | _ => cases hb
  | element component =>
    have hcomponent := h.of_element
    refine (Invocation.central hcomponent).of_content hcomponent KeysUnique.of_element
      (fun _ _ => .rfl) ?_
    intro other hb
    cases other with
    | element other => exact ⟨other, rfl⟩
    | _ => cases hb
  | foreign value =>
    refine .of_eq (beq_self_eq_true value) fun b hb => ?_
    cases b with
    | foreign other => exact congrArg Value.foreign (eq_of_beq hb)
    | _ => cases hb

/-! ## Reading equal values -/

/-- Equal values in which no key occurs twice. -/
structure Same (a b : Value) : Prop where
  left : a.KeysUnique
  right : b.KeysUnique
  equal : Equal a b

namespace Same

theorem null : Same .null .null := ⟨.null, .null, rfl⟩

variable {a b : Value}

/-- A step leads on from both or from neither. -/
theorem child? (h : Same a b) (segment : String) :
    Option.Rel Same (a.child? segment) (b.child? segment) := by
  obtain ⟨hleft, hright, hequal⟩ := h
  cases hleft with
  | array hitems =>
    cases hright with
    | array hothers =>
      have hsame : List.Forall₂ Same _ _ :=
        forall₂_imp_of_mem (equal_array_iff.1 hequal) fun item hm other ho he =>
          ⟨hitems item hm, hothers other ho, he⟩
      simp only [Value.child?]
      cases Bind.arrayIndex? segment with
      | none => exact .none
      | some index => exact getElem?_rel_of_forall₂ hsame index
    | _ => cases hequal
  | object hunique hfields =>
    cases hright with
    | object hunique' hothers =>
      have hsame : Fields.Matched Same _ _ :=
        ((equal_object_iff hunique hunique').1 hequal).imp_of_mem fun field hm other ho he =>
          ⟨hfields field hm, hothers other ho, he⟩
      exact hsame.lookup hunique' segment
    | _ => cases hequal
  | _ =>
    cases hright with
    | array _ | object _ _ => cases hequal
    | _ => exact .none

theorem evaluate (h : Same a b) (reference : Bind) :
    Same (reference.evaluate a) (reference.evaluate b) :=
  evaluate_rel child? null h reference

end Same

theorem truthy_of_equal {a b : Value} (h : Equal a b) : a.truthy = b.truthy := by
  cases a with
  | null =>
    cases b with
    | null => rfl
    | _ => cases h
  | bool value =>
    cases b with
    | bool other => exact eq_of_beq h
    | _ => cases h
  | _ =>
    cases b with
    | null | bool _ => cases h
    | _ => rfl

/-- Without regard to the order of keys, equality is an equivalence of documents, of trees, of
elements and of values in which no key occurs twice, numbers compared by value and foreign
values and plug-ins by identity. Equal values have equal values at the end of every path, are
escaped to equal values, and are both true or both not. -/
theorem equality_respected :
    (Equivalence fun a b : Number => (a == b) = true) ∧
    (Equivalence fun a b : { json : Json // json.KeysUnique } => Json.Equal a.1 b.1) ∧
    (Equivalence fun a b : { node : Node // node.KeysUnique } => Node.Equal a.1 b.1) ∧
    (Equivalence fun a b : { used : Invocation // used.KeysUnique } =>
      Invocation.Equal a.1 b.1) ∧
    (Equivalence fun a b : { value : Value // value.KeysUnique } => Equal a.1 b.1) ∧
    ∀ a b : Value, a.KeysUnique → b.KeysUnique → Equal a b →
      (∀ reference : Bind, Equal (reference.evaluate a) (reference.evaluate b)) ∧
      Equal a.escapeHtml b.escapeHtml ∧ a.truthy = b.truthy := by
  refine ⟨Number.equal_equivalence, equivalence_of_central fun _ h => Json.central h,
    equivalence_of_central fun _ h => Node.central h,
    equivalence_of_central fun _ h => Invocation.central h,
    equivalence_of_central fun _ h => central h, fun a b hleft hright hequal => ⟨?_, ?_, ?_⟩⟩
  · intro reference
    exact (Same.evaluate ⟨hleft, hright, hequal⟩ reference).equal
  · show (a.escapeHtml == b.escapeHtml) = true
    rw [beq_escapeHtml]
    exact hequal
  · exact truthy_of_equal hequal

/-- The fields of a page: a link with the given settings, a zero of some sign and a mark. -/
def pageFields (settings : List (String × Node)) (negative : Bool) : List (String × Value) :=
  [("link", .element ⟨"link", ⟨0⟩, .map settings, .null⟩),
    ("zero", .number (.float ⟨negative, 0⟩)), ("mark", .foreign ⟨7, .word 1⟩)]

def linkSettings : List (String × Node) :=
  [("href", .scalar (.string "/")), ("bold", .scalar (.bool true))]

/-- A page and the same page in reverse order, its link's settings included, are equal. -/
theorem reversed_page_alike :
    let page := Value.object (pageFields linkSettings false)
    let reversed := Value.object (pageFields linkSettings.reverse true).reverse
    Equal page reversed ∧ Equal reversed page ∧
      (∀ reference : Bind, Equal (reference.evaluate page) (reference.evaluate reversed)) ∧
      Equal page.escapeHtml reversed.escapeHtml ∧ page.truthy = reversed.truthy := by
  intro page reversed
  have hlinks : ∀ field ∈ linkSettings, field.2.KeysUnique :=
    List.forall_mem_cons.2 ⟨.scalar (.string _), List.forall_mem_singleton.2 (.scalar (.bool _))⟩
  have hfields : ∀ settings negative, (Fields.keys settings).Nodup →
      (∀ field ∈ settings, field.2.KeysUnique) →
      ∀ field ∈ pageFields settings negative, field.2.KeysUnique := by
    intro settings negative hunique hsettings
    exact List.forall_mem_cons.2 ⟨.element ⟨.map hunique hsettings, .null⟩,
      List.forall_mem_cons.2 ⟨.number _, List.forall_mem_singleton.2 (.foreign _)⟩⟩
  have hkeys : (Fields.keys (pageFields linkSettings false)).Nodup := by decide
  have hpage : page.KeysUnique := .object hkeys (hfields _ _ (by decide) hlinks)
  have hkeys' : (Fields.keys (pageFields linkSettings.reverse true).reverse).Nodup := by decide
  have hreversed : reversed.KeysUnique := by
    refine .object hkeys' fun field hm => ?_
    refine hfields linkSettings.reverse true (by decide) ?_ field (List.mem_reverse.1 hm)
    exact fun setting hs => hlinks setting (List.mem_reverse.1 hs)
  obtain ⟨-, -, -, -, hequivalence, hreads⟩ := equality_respected
  have hequal : Equal page reversed := by decide
  have hback : Equal reversed page :=
    @Equivalence.symm _ _ hequivalence ⟨page, hpage⟩ ⟨reversed, hreversed⟩ hequal
  exact ⟨hequal, hback, hreads page reversed hpage hreversed hequal⟩

end Value

end DeclaredUi
