import DeclaredUi.Proofs.Reference.Escape

/-! What `join` sees of its items. Only the leaves count, from left to right: an array among
the items may be opened in its place, so an empty one is nothing, while a `null` is a leaf
with an empty text. A separator stands between any two leaves, so where two rows of items
meet there is one more, as long as neither is without leaves. Without a separator the
leaves are what the array of the items is written with. -/

namespace DeclaredUi

namespace Reference

/-- The leaves of a row of values in order: whatever is no array, in any depth of arrays. -/
inductive HasLeaves : List Value → List Value → Prop
  | nil : HasLeaves [] []
  | leaf {value : Value} {rest found : List Value} : value.array? = none →
      HasLeaves rest found → HasLeaves (value :: rest) (value :: found)
  | nested {items rest front back : List Value} : HasLeaves items front →
      HasLeaves rest back → HasLeaves (.array items :: rest) (front ++ back)

theorem leaves_of_array?_eq_none {value : Value} (h : value.array? = none) :
    leaves value = [value] := by
  cases value with
  | array items => cases h
  | _ => rfl

theorem HasLeaves.leavesOf_eq {items found : List Value} (h : HasLeaves items found) :
    leavesOf items = found := by
  induction h with
  | nil => rfl
  | leaf hleaf _ ih => rw [leavesOf, leaves_of_array?_eq_none hleaf, ih, List.singleton_append]
  | nested _ _ ih ih' => rw [leavesOf, leaves, ih, ih']

theorem HasLeaves.append {items others found again : List Value} (h : HasLeaves items found)
    (h' : HasLeaves others again) : HasLeaves (items ++ others) (found ++ again) := by
  induction h with
  | nil => exact h'
  | leaf hleaf _ ih => exact .leaf hleaf ih
  | nested hitems _ _ ih =>
    rw [List.append_assoc]
    exact .nested hitems ih

theorem hasLeaves_singleton (value : Value) : HasLeaves [value] (leaves value) := by
  induction value using Value.byParts with
  | array items ih =>
    have hitems : HasLeaves items (leavesOf items) := by
      induction items with
      | nil => exact .nil
      | cons item rest ihrest =>
        have hitem := ih item List.mem_cons_self
        have hrest := ihrest fun other hm => ih other (List.mem_cons_of_mem _ hm)
        exact hitem.append hrest
    simpa [leaves] using HasLeaves.nested hitems .nil
  | _ => exact .leaf rfl .nil

theorem hasLeaves_leavesOf (items : List Value) : HasLeaves items (leavesOf items) := by
  induction items with
  | nil => exact .nil
  | cons item rest ih => exact (hasLeaves_singleton item).append ih

theorem hasLeaves_iff {items found : List Value} :
    HasLeaves items found ↔ leavesOf items = found := by
  constructor
  · exact HasLeaves.leavesOf_eq
  · rintro rfl
    exact hasLeaves_leavesOf items

/-- An array among the items has the leaves that its own items have in its place. -/
theorem hasLeaves_opened (before items after found : List Value) :
    HasLeaves (before ++ .array items :: after) found ↔
      HasLeaves (before ++ items ++ after) found := by
  simp [hasLeaves_iff, leaves]

/-! ## What is joined -/

/-- An array of items under one of the two keys for them, and what stands under the key for
the separator. -/
structure Joins (config : Value) (items : List Value) (separator : Option Value) : Prop where
  items : config.get? "items" = some (.array items) ∨
    (∀ found, config.get? "items" = some found → found.truthy = false) ∧
      config.get? "$join" = some (.array items)
  separator : config.get? "separator" = separator

/-- What is written between two leaves: nothing for `null` and `false`. -/
def separatorText (separator : Option Value) : String :=
  ((separator.filter Value.truthy).map Value.text).getD ""

theorem separatorText_of_none {separator : Option Value}
    (h : separator = none ∨ separator = some .null ∨ separator = some (.bool false)) :
    separatorText separator = "" := by
  rcases h with rfl | rfl | rfl <;> rfl

theorem firstTruthy?_singleton (config : Value) (key : String) :
    config.firstTruthy? [key] = (config.get? key).filter Value.truthy := by
  unfold Value.firstTruthy?
  cases hg : config.get? key with
  | none => simp [hg]
  | some found => by_cases ht : found.truthy = true <;> simp [hg, ht, Option.filter]

theorem Joins.firstTruthy {config : Value} {items : List Value} {separator : Option Value}
    (h : Joins config items separator) :
    config.firstTruthy ["items", "$join"] = .array items := by
  rcases h.items with hitems | ⟨hfalsy, hjoin⟩
  · exact Value.firstTruthy_of_truthy hitems rfl _
  · rw [Value.firstTruthy_of_not_truthy hfalsy]
    exact Value.firstTruthy_of_truthy hjoin rfl _

/-- The texts of the leaves with the separator between them. -/
theorem Joins.join_eq {config : Value} {items : List Value} {separator : Option Value}
    (h : Joins config items separator) :
    join config =
      .string ((separatorText separator).intercalate ((leavesOf items).map Value.text)) := by
  rw [join, h.firstTruthy, firstTruthy?_singleton, h.separator]
  rfl

/-! ## Without a separator -/

theorem intercalate_empty (texts : List String) : "".intercalate texts = String.join texts := by
  induction texts with
  | nil => rfl
  | cons text rest ih =>
    by_cases hrest : rest = []
    · simp [hrest]
    · rw [String.intercalate_cons_of_ne_nil hrest, ih, String.join_cons, String.append_empty]

/-- A value is written with what its leaves are written with. -/
theorem text_eq_join_leaves (value : Value) :
    value.text = String.join ((leaves value).map Value.text) := by
  induction value using Value.byParts with
  | array items ih =>
    rw [Value.text, leaves, Value.textItems_eq_join]
    induction items with
    | nil => rfl
    | cons item rest ihrest =>
      have hitem := ih item List.mem_cons_self
      have hrest := ihrest fun other hm => ih other (List.mem_cons_of_mem _ hm)
      rw [List.map_cons, String.join_cons, hrest, hitem, leavesOf, List.map_append,
        String.join_append]
  | _ => simp [leaves]

/-- `join` sees the row of leaves of its items and nothing else of them. Every row of items
has one such row, and an array among the items can be opened in its place without changing
it. Items with the same leaves are joined to the same text. Two rows that have a leaf each
are joined, one after the other, to the text of the first, the separator and the text of the
second. Without a separator the text is the one that the array of the items has. -/
theorem join_by_leaves :
    (∀ items, ∃! found, HasLeaves items found) ∧
    (∀ before items after found, HasLeaves (before ++ .array items :: after) found ↔
      HasLeaves (before ++ items ++ after) found) ∧
    (∀ config other items others separator again found, Joins config items separator →
      Joins other others again → separatorText separator = separatorText again →
      HasLeaves items found → HasLeaves others found → join config = join other) ∧
    (∀ whole first second xs ys separator x y front back, Joins whole (xs ++ ys) separator →
      Joins first xs separator → Joins second ys separator → HasLeaves xs (x :: front) →
      HasLeaves ys (y :: back) → ∃ before after, join first = .string before ∧
        join second = .string after ∧
        join whole = .string (before ++ separatorText separator ++ after)) ∧
    ∀ config items separator, Joins config items separator →
      separator = none ∨ separator = some .null ∨ separator = some (.bool false) →
      join config = .string (Value.array items).text := by
  refine ⟨?unique, hasLeaves_opened, ?leaves, ?append, ?plain⟩
  case unique =>
    intro items
    exact ⟨leavesOf items, hasLeaves_leavesOf items, fun found h => h.leavesOf_eq.symm⟩
  case leaves =>
    intro config other items others separator again found h h' hseparator hitems hothers
    rw [h.join_eq, h'.join_eq, hitems.leavesOf_eq, hothers.leavesOf_eq, hseparator]
  case append =>
    intro whole first second xs ys separator x y front back hwhole hfirst hsecond hxs hys
    refine ⟨_, _, hfirst.join_eq, hsecond.join_eq, ?_⟩
    rw [hwhole.join_eq, (hxs.append hys).leavesOf_eq, hxs.leavesOf_eq, hys.leavesOf_eq,
      List.map_append]
    exact congrArg Value.string
      (String.intercalate_append_of_ne_nil (List.cons_ne_nil _ _) (List.cons_ne_nil _ _))
  case plain =>
    intro config items separator h hnone
    rw [h.join_eq, separatorText_of_none hnone, intercalate_empty]
    exact congrArg Value.string (text_eq_join_leaves (.array items)).symm

/-- Items in groups, some of them empty. -/
def groups : List Value :=
  [.array [], .string "a", .array [.array [.null, .array []], .array [.string "b"]]]

/-- The items stand under the second key, as there is nothing truthy under the first. -/
def joinOf (items : List Value) (separator : Value) : Value :=
  .object [("separator", separator), ("$join", .array items), ("items", .bool false)]

theorem groups_by_leaves :
    Joins (joinOf groups (.string ", ")) groups (some (.string ", ")) ∧
      HasLeaves groups [.string "a", .null, .string "b"] ∧
      join (joinOf groups (.string ", ")) =
        join (joinOf [.string "a", .null, .string "b"] (.string ", ")) ∧
      join (joinOf (groups ++ groups) (.string ", ")) = .string "a, , b, a, , b" ∧
      join (joinOf groups (.bool false)) = .string "ab" := by
  obtain ⟨-, -, hleaves, happend, hplain⟩ := join_by_leaves
  have hjoins : ∀ items separator, Joins (joinOf items separator) items (some separator) := by
    intro items separator
    exact ⟨.inr ⟨fun found h => Option.some.inj h ▸ rfl, rfl⟩, rfl⟩
  have hgroups : HasLeaves groups [.string "a", .null, .string "b"] :=
    .nested .nil (.leaf rfl (.nested (.nested (.leaf rfl (.nested .nil .nil))
      (.nested (.leaf rfl .nil) .nil)) .nil))
  have hrow : HasLeaves [.string "a", .null, .string "b"] [.string "a", .null, .string "b"] :=
    .leaf rfl (.leaf rfl (.leaf rfl .nil))
  refine ⟨hjoins _ _, hgroups, ?_, ?_, ?_⟩
  · exact hleaves _ _ _ _ _ _ _ (hjoins _ _) (hjoins _ _) rfl hgroups hrow
  · obtain ⟨before, after, hbefore, hafter, hwhole⟩ :=
      happend _ _ _ _ _ _ _ _ _ _ (hjoins (groups ++ groups) (.string ", ")) (hjoins _ _)
        (hjoins _ _) hgroups hgroups
    have hgroup : join (joinOf groups (.string ", ")) = .string "a, , b" := rfl
    obtain rfl := Value.string.inj (hgroup.symm.trans hbefore)
    obtain rfl := Value.string.inj (hgroup.symm.trans hafter)
    exact hwhole
  · exact hplain _ _ _ (hjoins _ _) (.inr (.inr rfl))

end Reference

end DeclaredUi
