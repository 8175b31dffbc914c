import DeclaredUi.Proofs.KeyOrder
import DeclaredUi.Proofs.KeysUnique

/-! Equality up to the order of keys is an equivalence, of documents, of trees and of
elements, as long as no map has a key twice. All three laws are proved in one induction on
the value that stands between two others: it is equal to itself, and what it is equal to is
equal to each other. -/

namespace DeclaredUi

/-! ## One value between two others -/

section

variable {α β : Type} {p : α → Prop} {R : α → α → Prop}

/-- It is related to itself, and what it is related to is related to each other. -/
structure Central (p : α → Prop) (R : α → α → Prop) (a : α) : Prop where
  refl : R a a
  join : ∀ {b c : α}, p b → p c → R a b → R a c → R b c

theorem equivalence_of_central (h : ∀ a, p a → Central p R a) :
    Equivalence fun a b : { a : α // p a } => R a.1 b.1 where
  refl a := (h a.1 a.2).refl
  symm {a b} hab := (h a.1 a.2).join b.2 a.2 hab (h a.1 a.2).refl
  trans {a b c} hab hbc :=
    (h b.1 b.2).join a.2 c.2 ((h a.1 a.2).join b.2 a.2 hab (h a.1 a.2).refl) hbc

namespace Central

/-- It is related to nothing but itself. -/
theorem of_eq {a : α} (hrefl : R a a) (h : ∀ b, R a b → a = b) : Central p R a where
  refl := hrefl
  join {b c} _ _ hb hc := by
    obtain rfl := h b hb
    exact hc

theorem items {items : List α} (h : ∀ item ∈ items, Central p R item) :
    Central (fun others => ∀ other ∈ others, p other) (List.Forall₂ R) items where
  refl := List.forall₂_same.2 fun item hm => (h item hm).refl
  join {others thirds} hothers hthirds hb hc := by
    have hitems : List.Forall₂ (fun a b => a ∈ items ∧ R a b) items others :=
      forall₂_imp_of_mem hb fun a ha b _ hab => ⟨ha, hab⟩
    refine forall₂_imp_of_mem (forall₂_through hitems hc) fun b hm c hm' hpair => ?_
    obtain ⟨a, ⟨ha, hab⟩, hac⟩ := hpair
    exact (h a ha).join (hothers b hm) (hthirds c hm') hab hac

theorem fields {fields : List (String × α)} (hu : Fields.Unique fields)
    (h : ∀ field ∈ fields, Central p R field.2) :
    Central (fun others => Fields.Unique others ∧ ∀ other ∈ others, p other.2)
      (Fields.Matched R) fields where
  refl := .refl fun field hm => (h field hm).refl
  join {others thirds} hothers hthirds hb hc := by
    refine (hb.through hu hc).imp_of_mem fun other hm third hm' hpair => ?_
    obtain ⟨field, hf, hother, hthird⟩ := hpair
    exact (h field hf).join (hothers.2 other hm) (hthirds.2 third hm') hother hthird

/-- What holds of the contents holds of what is built of them, where this is related only to
what is built in the same way. -/
theorem of_content {β : Type} {q : β → Prop} {S : β → β → Prop} {build : β → α} {content : β}
    (h : Central q S content) (hcontent : q content) (hbuild : ∀ {other}, p (build other) → q other)
    (hiff : ∀ {a b}, q a → q b → (R (build a) (build b) ↔ S a b))
    (hform : ∀ {other}, R (build content) other → ∃ inner, other = build inner) :
    Central p R (build content) where
  refl := (hiff hcontent hcontent).2 h.refl
  join {b c} hpb hpc hb hc := by
    obtain ⟨other, rfl⟩ := hform hb
    obtain ⟨third, rfl⟩ := hform hc
    have hother := hbuild hpb
    have hthird := hbuild hpc
    exact (hiff hother hthird).2 (h.join hother hthird ((hiff hcontent hother).1 hb)
      ((hiff hcontent hthird).1 hc))

end Central

end

/-! ## Numbers -/

theorem Binary64.equal_equivalence : Equivalence fun a b : Binary64 => (a == b) = true where
  refl a := by simp [beq_iff]
  symm {a b} h := by
    rw [beq_iff] at h ⊢
    obtain ⟨hunits, hsign⟩ := h
    exact ⟨hunits.symm, hunits ▸ hsign.imp id Eq.symm⟩
  trans {a b c} h h' := by
    rw [beq_iff] at h h' ⊢
    obtain ⟨hunits, hsign⟩ := h
    obtain ⟨hunits', hsign'⟩ := h'
    refine ⟨hunits.trans hunits', ?_⟩
    rcases hsign with hzero | hsign
    · exact .inl hzero
    · rcases hsign' with hzero | hsign'
      · exact .inl (hunits.trans hzero)
      · exact .inr (hsign.trans hsign')

theorem Number.equal_equivalence : Equivalence fun a b : Number => (a == b) = true where
  refl a := by
    cases a with
    | integer value => simp
    | float value => simpa using Binary64.equal_equivalence.refl value
  symm {a b} h := by
    cases a with
    | integer value => cases b <;> simp_all
    | float value =>
      cases b with
      | integer other => simp at h
      | float other => simpa using Binary64.equal_equivalence.symm (by simpa using h)
  trans {a b c} h h' := by
    cases b with
    | integer value => cases a <;> cases c <;> simp_all
    | float value =>
      cases a with
      | integer other => simp at h
      | float other =>
        cases c with
        | integer third => simp at h'
        | float third =>
          simpa using Binary64.equal_equivalence.trans (by simpa using h) (by simpa using h')

theorem Number.central (value : Number) :
    Central (fun _ => True) (fun a b : Number => (a == b) = true) value where
  refl := equal_equivalence.refl value
  join _ _ hb hc := equal_equivalence.trans (equal_equivalence.symm hb) hc

/-! ## Documents -/

namespace Json

theorem central {a : Json} (h : a.KeysUnique) : Central KeysUnique Equal a := by
  induction a using Json.byParts with
  | null => exact .of_eq rfl fun b hb => ((eq_null_iff hb).1 rfl).symm
  | bool value =>
    refine .of_eq (beq_self_eq_true value) fun b hb => ?_
    cases b with
    | bool other => exact congrArg Json.bool (eq_of_beq hb)
    | _ => cases hb
  | number value =>
    refine (Number.central value).of_content trivial (fun _ => trivial) (fun _ _ => .rfl) ?_
    intro other hb
    cases other with
    | number other => exact ⟨other, rfl⟩
    | _ => cases hb
  | string value =>
    exact .of_eq (beq_self_eq_true value) fun b hb => ((eq_string_iff hb).1 rfl).symm
  | array items ih =>
    have hitems := keysUnique_array_iff.1 h
    have hcentral := Central.items fun item hm => ih item hm (hitems item hm)
    refine hcentral.of_content hitems keysUnique_array_iff.1 (fun _ _ => equal_array_iff) ?_
    intro other hb
    cases other with
    | array others => exact ⟨others, rfl⟩
    | _ => cases hb
  | object fields ih =>
    have hfields := keysUnique_object_iff.1 h
    have hcentral := Central.fields hfields.1 fun field hm => ih field hm (hfields.2 field hm)
    refine hcentral.of_content hfields keysUnique_object_iff.1
      (fun ha hb => equal_object_iff ha.1 hb.1) ?_
    intro other hb
    cases other with
    | object others => exact ⟨others, rfl⟩
    | _ => cases hb

end Json

/-! ## Trees -/

namespace Node

theorem equal_bind_iff {a b : Bind} :
    Equal (.bind a) (.bind b) ↔ a.path = b.path ∧ Json.Equal a.declaration b.declaration := by
  show (a.path == b.path && a.declaration == b.declaration) = true ↔ _
  rw [Bool.and_eq_true, beq_iff_eq]

theorem equal_invocation_iff {role role' : Role} {name name' : String} {plugin plugin' : PluginId}
    {config config' : Node} {declaration declaration' : Json} :
    Equal (.invocation role name plugin config declaration)
        (.invocation role' name' plugin' config' declaration') ↔
      (role = role' ∧ name = name' ∧ plugin = plugin') ∧ Equal config config' ∧
        Json.Equal declaration declaration' := by
  show (role == role' && name == name' && plugin == plugin' && config == config' &&
    declaration == declaration') = true ↔ _
  simp only [Bool.and_eq_true, beq_iff_eq, and_assoc]

theorem central {a : Node} (h : a.KeysUnique) : Central KeysUnique Equal a := by
  induction a using Node.byParts with
  | bind reference =>
    obtain ⟨hdeclared⟩ := h
    have hcentral := Json.central hdeclared
    refine ⟨equal_bind_iff.2 ⟨rfl, hcentral.refl⟩, fun {b c} hub huc hb hc => ?_⟩
    cases hub with
    | bind hub =>
      cases huc with
      | bind huc =>
        obtain ⟨hpath, hb⟩ := equal_bind_iff.1 hb
        obtain ⟨hpath', hc⟩ := equal_bind_iff.1 hc
        exact equal_bind_iff.2 ⟨hpath.symm.trans hpath', hcentral.join hub huc hb hc⟩
      | _ => cases hc
    | _ => cases hb
  | invocation role name plugin config declaration ih =>
    obtain _ | ⟨hconfig, hdeclared⟩ := h
    have hcentral := ih hconfig
    have hcentral' := Json.central hdeclared
    refine ⟨equal_invocation_iff.2 ⟨⟨rfl, rfl, rfl⟩, hcentral.refl, hcentral'.refl⟩,
      fun {b c} hub huc hb hc => ?_⟩
    cases hub with
    | invocation hub hub' =>
      cases huc with
      | invocation huc huc' =>
        obtain ⟨⟨rfl, rfl, rfl⟩, hb, hb'⟩ := equal_invocation_iff.1 hb
        obtain ⟨hsame, hc, hc'⟩ := equal_invocation_iff.1 hc
        exact equal_invocation_iff.2
          ⟨hsame, hcentral.join hub huc hb hc, hcentral'.join hub' huc' hb' hc'⟩
      | _ => cases hc
    | _ => cases hb
  | map fields ih =>
    have hfields := h.of_map
    have hcentral := Central.fields hfields.1 fun field hm => ih field hm (hfields.2 field hm)
    refine hcentral.of_content hfields KeysUnique.of_map (fun ha hb => equal_map_iff ha.1 hb.1) ?_
    intro other hb
    cases other with
    | map others => exact ⟨others, rfl⟩
    | _ => cases hb
  | sequence items ih =>
    have hitems := h.of_sequence
    have hcentral := Central.items fun item hm => ih item hm (hitems item hm)
    refine hcentral.of_content hitems KeysUnique.of_sequence (fun _ _ => equal_sequence_iff) ?_
    intro other hb
    cases other with
    | sequence others => exact ⟨others, rfl⟩
    | _ => cases hb
  | scalar value =>
    have hvalue := h.of_scalar
    refine (Json.central hvalue).of_content hvalue KeysUnique.of_scalar (fun _ _ => .rfl) ?_
    intro other hb
    cases other with
    | scalar other => exact ⟨other, rfl⟩
    | _ => cases hb

end Node

namespace Invocation

/-- Equal by name, identity of the plug-in, config and declaration. -/
abbrev Equal (a b : Invocation) : Prop := (a == b) = true

/-- Elements are equal as the nodes that they are. -/
theorem equal_iff_toNode {a b : Invocation} (role : Role) :
    Equal a b ↔ Node.Equal (a.toNode role) (b.toNode role) := by
  show (a.name == b.name && a.plugin == b.plugin && a.config == b.config &&
    a.declaration == b.declaration) = true ↔ _
  rw [toNode, toNode, Node.equal_invocation_iff]
  simp [and_assoc]

theorem KeysUnique.toNode {used : Invocation} (h : used.KeysUnique) (role : Role) :
    (used.toNode role).KeysUnique :=
  .invocation h.config h.declaration

theorem central {a : Invocation} (h : a.KeysUnique) : Central KeysUnique Equal a := by
  have hcentral := Node.central (h.toNode .component)
  refine ⟨(equal_iff_toNode .component).2 hcentral.refl, fun {b c} hub huc hb hc => ?_⟩
  exact (equal_iff_toNode .component).2 (hcentral.join (hub.toNode _) (huc.toNode _)
    ((equal_iff_toNode _).1 hb) ((equal_iff_toNode _).1 hc))

end Invocation

end DeclaredUi
