import DeclaredUi.Proofs.Node.Preorder
import DeclaredUi.Proofs.Registry
import DeclaredUi.Reference.Registry
import DeclaredUi.Ui.Basic

/-! Elements handed out one by one. What a walk still hands out is the list that its stack
stands for, and what a selection still hands out are the declarations of those in the list
that pass its filter; each pull takes the first of them off. So the walks from a node and
from a component come to an end and list the elements in pre-order, and every query for
elements, pulled, listed or pushed, comes to the declarations that its filter asks for. -/

namespace DeclaredUi

section

variable {σ α : Type} {next? : σ → Option (α × σ)}

/-- Pulling hands out these items, one after the other, and then there are no more. -/
inductive Yields (next? : σ → Option (α × σ)) : σ → List α → Prop
  | done {state : σ} : next? state = none → Yields next? state []
  | item {state rest : σ} {item : α} {items : List α} : next? state = some (item, rest) →
      Yields next? rest items → Yields next? state (item :: items)

/-- Every pull takes the first of the contents off, and the last one finds none. -/
structure HandsOut (next? : σ → Option (α × σ)) (contents : σ → List α) : Prop where
  nil {state : σ} : next? state = none → contents state = []
  cons {state rest : σ} {item : α} : next? state = some (item, rest) →
    contents state = item :: contents rest

/-- Then pulling comes to an end and hands out just the contents. -/
theorem HandsOut.yields_iff {contents : σ → List α} (h : HandsOut next? contents) {state : σ}
    {items : List α} : Yields next? state items ↔ items = contents state := by
  constructor
  · intro hyields
    induction hyields with
    | done hnext => rw [h.nil hnext]
    | item hnext _ ih => rw [h.cons hnext, ih]
  · intro hitems
    induction items generalizing state with
    | nil =>
      cases hnext : next? state with
      | none => exact .done hnext
      | some found =>
        rw [h.cons hnext] at hitems
        cases hitems
    | cons item items ih =>
      cases hnext : next? state with
      | none =>
        rw [h.nil hnext] at hitems
        cases hitems
      | some found =>
        rw [h.cons hnext] at hitems
        obtain ⟨rfl, hrest⟩ := List.cons.inj hitems
        exact .item hnext (ih hrest)

end

namespace Walk

/-- A walk hands out what its stack stands for. -/
theorem handsOut_listed : HandsOut next? fun walk => listed walk.stack where
  nil {walk} hnext := by
    rw [listed_nextOf, Option.map_eq_none_iff.1 hnext]
  cons {walk rest element} hnext := by
    obtain ⟨⟨_, stack⟩, hfound, heq⟩ := Option.map_eq_some_iff.1 hnext
    obtain ⟨rfl, rfl⟩ := Prod.mk.inj heq
    rw [listed_nextOf, hfound]

/-- Looking for an element that passes a test drops those before it. -/
theorem filter_listed (accepts : Element → Bool) (walk : Walk) :
    (listed walk.stack).filter accepts = match walk.find? accepts with
      | some (element, rest) => element :: (listed rest.stack).filter accepts
      | none => [] := by
  fun_induction find? accepts walk with
  | case1 walk element rest hnext haccepts =>
    rw [handsOut_listed.cons hnext, List.filter_cons_of_pos haccepts]
  | case2 walk element rest hnext haccepts ih =>
    rw [handsOut_listed.cons hnext, List.filter_cons_of_neg haccepts, ih]
  | case3 walk hnext =>
    rw [handsOut_listed.nil hnext]
    rfl

end Walk

namespace Selection

/-- The declarations that a selection stands for. -/
def contents (selection : Selection) : List Json :=
  ((Walk.listed selection.walk.stack).filter selection.accepts).map Element.declaration

theorem handsOut_contents : HandsOut next? contents where
  nil {selection} hnext := by
    rw [contents, Walk.filter_listed, Option.map_eq_none_iff.1 hnext]
    rfl
  cons {selection rest declaration} hnext := by
    obtain ⟨⟨element, walk⟩, hfound, heq⟩ := Option.map_eq_some_iff.1 hnext
    obtain ⟨rfl, rfl⟩ := Prod.mk.inj heq
    rw [contents, Walk.filter_listed, hfound]
    rfl

theorem handsOut_toList : HandsOut next? toList where
  nil hnext := by
    rw [toList]
    split <;> simp_all
  cons hnext := by
    rw [toList]
    split <;> simp_all

theorem toList_eq_contents (selection : Selection) : selection.toList = selection.contents :=
  handsOut_contents.yields_iff.1 (handsOut_toList.yields_iff.2 rfl)

end Selection

/-! ## Filters by name -/

namespace ElementFilter

/-- A name is asked for as it is, or with one marker in front. -/
def Asks (names : List String) (name : String) : Prop :=
  mark name ∈ names ∨ unmark? name = none ∧ name ∈ names

instance (names : List String) : DecidablePred (Asks names) :=
  fun _ => inferInstanceAs (Decidable (_ ∨ _))

theorem accepts_ofNames_iff {names : List String} {name : String} :
    (ofNames names).accepts name = true ↔ Asks names name := by
  unfold ofNames accepts Asks
  rw [List.contains_iff_mem, List.mem_map]
  constructor
  · rintro ⟨given, hgiven, hname⟩
    cases hu : unmark? given with
    | some rest =>
      obtain rfl : rest = name := by rwa [hu] at hname
      rw [unmark?_eq_some_iff.1 hu] at hgiven
      exact .inl hgiven
    | none =>
      obtain rfl : given = name := by rwa [hu] at hname
      exact .inr ⟨hu, hgiven⟩
  · rintro (hgiven | ⟨hu, hgiven⟩)
    · exact ⟨mark name, hgiven, by rw [unmark?_eq_some_iff.2 rfl]; rfl⟩
    · exact ⟨name, hgiven, by rw [hu]; rfl⟩

end ElementFilter

/-! ## Queries for elements -/

namespace Ui

variable {ui : Ui} {root : Invocation}

/-- A query comes to these declarations, whether they are pulled one by one until there are
no more, listed, or pushed to a visitor. -/
structure Visits (ui : Ui) (filter : ElementFilter) (declarations : List Json) : Prop where
  pulled : ∃ selection, ui.select filter = .ok selection ∧
    ∀ items, Yields Selection.next? selection items ↔ items = declarations
  listed : ui.eachElement filter = .ok declarations
  pushed : ∀ {σ : Type} (visit : σ → Json → σ) (start : σ),
    ui.forEachElement filter visit start = .ok (declarations.foldl visit start)

theorem queryRoot_of_root (h : ui.root? = some root) (operation : String) :
    ui.queryRoot operation = .ok root := by
  obtain ⟨renderer, hrenderer, rfl⟩ := Option.map_eq_some_iff.1 h
  rw [queryRoot, hrenderer]

theorem uniqueBindPaths_of_root (h : ui.root? = some root) :
    ui.uniqueBindPaths =
      .ok ((root.toNode .component).preorder.filterMap Element.bindPath?).eraseDups := by
  rw [uniqueBindPaths, queryRoot_of_root h, ← Invocation.toList_elements]
  rfl

/-- A query on a tree comes to the declarations of its elements that pass the filter. -/
theorem visits_of_root (h : ui.root? = some root) (filter : ElementFilter) :
    ui.Visits filter (((root.toNode .component).preorder.filter fun element =>
      filter.accepts element.name).map Element.declaration) := by
  have hselect : ui.select filter = .ok ⟨root.elements, filter⟩ := by
    rw [select, queryRoot_of_root h]
    rfl
  have heach : ui.eachElement filter = .ok (Selection.mk root.elements filter).contents := by
    rw [eachElement, hselect, ← Selection.toList_eq_contents]
    rfl
  have hcontents : (Selection.mk root.elements filter).contents =
      ((root.toNode .component).preorder.filter fun element =>
        filter.accepts element.name).map Element.declaration := by
    rw [← root.toList_elements, Walk.toList, Walk.drain_eq_listed]
    rfl
  rw [hcontents] at heach
  refine ⟨⟨_, hselect, fun items => ?_⟩, heach, fun visit start => ?_⟩
  · rw [← hcontents]
    exact Selection.handsOut_contents.yields_iff
  · rw [forEachElement, heach]
    rfl

/-- The walks from a node and from a component come to an end and hand out the elements in
pre-order. In the same order a query comes to the declarations of those elements that its
filter asks for: all of them, those of the names that it was made from, which may be marked
and given more than once, or those of the names that it holds. -/
theorem visits_in_preorder (h : ui.root? = some root) {names others : List String}
    (hsame : ∀ name, name ∈ others ↔ name ∈ names) :
    (∀ (node : Node) (elements : List Element),
      Yields Walk.next? node.elements elements ↔ elements = node.preorder) ∧
    (∀ (component : Invocation) (elements : List Element),
      Yields Walk.next? component.elements elements ↔
        elements = (component.toNode .component).preorder) ∧
    ui.Visits .all ((root.toNode .component).preorder.map Element.declaration) ∧
    ui.Visits (.ofNames others) (((root.toNode .component).preorder.filter fun element =>
      ElementFilter.Asks names element.name).map Element.declaration) ∧
    ui.Visits (.names names) (((root.toNode .component).preorder.filter fun element =>
      element.name ∈ names).map Element.declaration) := by
  refine ⟨fun node elements => ?_, fun component elements => ?_, ?all, ?ofNames, ?names⟩
  · rw [Walk.handsOut_listed.yields_iff, ← node.toList_elements, Walk.toList,
      Walk.drain_eq_listed]
  · rw [Walk.handsOut_listed.yields_iff, ← component.toList_elements, Walk.toList,
      Walk.drain_eq_listed]
  case all =>
    have hall : ((root.toNode .component).preorder.filter fun element =>
        ElementFilter.all.accepts element.name) = (root.toNode .component).preorder :=
      List.filter_eq_self.2 fun _ _ => rfl
    have hvisits := visits_of_root h .all
    rwa [hall] at hvisits
  case ofNames =>
    have hasked : ∀ name, (ElementFilter.ofNames others).accepts name =
        decide (ElementFilter.Asks names name) := by
      intro name
      rw [Bool.eq_iff_iff, ElementFilter.accepts_ofNames_iff, decide_eq_true_iff]
      unfold ElementFilter.Asks
      rw [hsame, hsame]
    have hvisits := visits_of_root h (.ofNames others)
    simp only [hasked] at hvisits
    exact hvisits
  case names =>
    have hheld : ∀ name, (ElementFilter.names names).accepts name = decide (name ∈ names) :=
      fun name => List.contains_eq_mem name names
    have hvisits := visits_of_root h (.names names)
    simp only [hheld] at hvisits
    exact hvisits

/-- A box with a list in front of a text, both with a bind in them. -/
def board : Invocation where
  name := "vbox"
  plugin := ⟨7⟩
  config := .map
    [("head", .invocation .helper "join" ⟨3⟩
      (.sequence [.scalar .null, .bind ⟨"a", .string "a"⟩]) (.string "list")),
     ("children", .sequence
      [.invocation .component "text" ⟨6⟩ (.bind ⟨"b", .string "b"⟩) (.string "text")])]
  declaration := .string "box"

theorem board_visits :
    (Ui.mk Reference.plugins Reference.registry {} .silent (some ⟨board, true⟩)).Visits
      (.ofNames ["text", "$bind", "text"]) [.string "a", .string "text", .string "b"] := by
  have hroot : (Ui.mk Reference.plugins Reference.registry {} .silent
      (some ⟨board, true⟩)).root? = some board := rfl
  have hsame : ∀ name, name ∈ ["text", "$bind", "text"] ↔ name ∈ ["$bind", "text"] :=
    fun name => by grind
  obtain ⟨-, -, -, hvisits, -⟩ := visits_in_preorder hroot hsame
  exact hvisits

end Ui

end DeclaredUi
