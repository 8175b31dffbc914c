import DeclaredUi.Proofs.Value.Path
import Mathlib.Data.List.Forall2

/-! Places in a value and their addresses. A position tells the item or the field to enter
at each step, and its address is the path of these steps in writing. Following the address
of a position ends there, and a path that ends anywhere has been read as a position, step by
step: below an object a part of it is a key, below an array it is a number in decimal. -/

namespace DeclaredUi

/-- The text writes the number in decimal, with any number of zeros in front. -/
def Numeral (text : String) (number : Nat) : Prop :=
  ∃ zeros, text = String.ofList (List.replicate zeros '0') ++ toString number

namespace Numeral

theorem of_toString (number : Nat) : Numeral (toString number) number :=
  ⟨0, by simp⟩

variable {text : String} {number : Nat}

theorem toList_eq (h : Numeral text number) :
    ∃ zeros, text.toList = List.replicate zeros '0' ++ Nat.toDigits 10 number := by
  obtain ⟨zeros, rfl⟩ := h
  exact ⟨zeros, by simp⟩

theorem ne_nil (h : Numeral text number) : text.toList ≠ [] := by
  obtain ⟨zeros, hlist⟩ := h.toList_eq
  rw [hlist]
  exact List.append_ne_nil_of_right_ne_nil _ Nat.toDigits_ne_nil

theorem isDigit (h : Numeral text number) : ∀ c ∈ text.toList, c.isDigit := by
  obtain ⟨zeros, hlist⟩ := h.toList_eq
  rw [hlist]
  intro c hc
  rcases List.mem_append.1 hc with hc | hc
  · rw [List.eq_of_mem_replicate hc]
    rfl
  · exact Nat.isDigit_of_mem_toDigits (by decide) (by decide) hc

/-- It is read as the number that it writes. -/
theorem ofDigitChars (h : Numeral text number) : Nat.ofDigitChars 10 text.toList 0 = number := by
  obtain ⟨zeros, hlist⟩ := h.toList_eq
  rw [hlist, Nat.ofDigitChars_append, Nat.ofDigitChars_replicate_zero, Nat.mul_zero,
    Nat.ofDigitChars_ten_toDigits]

theorem digitChar_of_isDigit {c : Char} (h : c.isDigit) :
    c.toNat - '0'.toNat < 10 ∧ Nat.digitChar (c.toNat - '0'.toNat) = c := by
  obtain ⟨hlow, hhigh⟩ := Char.isDigit_iff_toNat.1 h
  have hten : c.toNat - '0'.toNat < 10 := by
    have hspan : '9'.toNat = '0'.toNat + 9 := rfl
    omega
  refine ⟨hten, Char.toNat_inj.1 ?_⟩
  rw [Nat.toNat_digitChar_of_lt_ten hten]
  exact Nat.add_sub_cancel' hlow

/-- Digits after a number that is not zero are its further digits. -/
theorem toDigits_append {digits : List Char} (h : ∀ c ∈ digits, c.isDigit) {start : Nat}
    (hpos : 0 < start) :
    Nat.toDigits 10 start ++ digits = Nat.toDigits 10 (Nat.ofDigitChars 10 digits start) := by
  induction digits generalizing start with
  | nil => simp
  | cons c rest ih =>
    obtain ⟨hten, hchar⟩ := digitChar_of_isDigit (h c List.mem_cons_self)
    have hnext := Nat.toDigits_append_toDigits (by decide) hpos hten
    rw [Nat.toDigits_of_lt_base hten, hchar] at hnext
    rw [Nat.ofDigitChars_cons, ← ih (fun d hd => h d (List.mem_cons_of_mem _ hd)) (by omega),
      ← hnext, List.append_assoc, List.singleton_append]

/-- Digits are zeros and the number that they are read as. -/
theorem exists_zeros {digits : List Char} (h : ∀ c ∈ digits, c.isDigit) (hne : digits ≠ []) :
    ∃ zeros, digits = List.replicate zeros '0' ++
      Nat.toDigits 10 (Nat.ofDigitChars 10 digits 0) := by
  induction digits with
  | nil => exact absurd rfl hne
  | cons c rest ih =>
    obtain ⟨hten, hchar⟩ := digitChar_of_isDigit (h c List.mem_cons_self)
    have hrest : ∀ d ∈ rest, d.isDigit := fun d hd => h d (List.mem_cons_of_mem _ hd)
    rw [Nat.ofDigitChars_cons, Nat.mul_zero, Nat.zero_add]
    rcases Nat.eq_zero_or_pos (c.toNat - '0'.toNat) with hzero | hpos
    · rw [hzero] at hchar ⊢
      cases rest with
      | nil => exact ⟨0, by rw [← hchar]; rfl⟩
      | cons d rest =>
        obtain ⟨zeros, hzeros⟩ := ih hrest (List.cons_ne_nil d rest)
        refine ⟨zeros + 1, ?_⟩
        rw [List.replicate_succ, List.cons_append, ← hzeros, ← hchar]
        rfl
    · refine ⟨0, ?_⟩
      rw [← toDigits_append hrest hpos, Nat.toDigits_of_lt_base hten, hchar]
      rfl

theorem of_isDigit (h : ∀ c ∈ text.toList, c.isDigit) (hne : text.toList ≠ []) :
    Numeral text (Nat.ofDigitChars 10 text.toList 0) := by
  obtain ⟨zeros, hzeros⟩ := exists_zeros h hne
  refine ⟨zeros, String.toList_injective ?_⟩
  rw [String.toList_append, String.toList_ofList, Nat.toString_eq_ofList_toDigits,
    String.toList_ofList]
  exact hzeros

end Numeral

namespace Bind

/-- A numeral is the index that it writes, if it fits 64 bits. -/
theorem arrayIndex?_of_numeral {segment : String} {number : Nat} (h : Numeral segment number) :
    arrayIndex? segment = if number < indexLimit then some number else none := by
  have hdigits : segment.toList.all Char.isDigit = true := List.all_eq_true.2 h.isDigit
  have hne : segment.toList.isEmpty = false := List.isEmpty_eq_false_iff.2 h.ne_nil
  unfold arrayIndex?
  simp only [hdigits, hne, h.ofDigitChars]
  simp

theorem toNat_lt_indexLimit (place : UInt64) : place.toNat < indexLimit := place.toNat_lt

/-- Nothing but a numeral is an index. -/
theorem numeral_of_arrayIndex? {segment : String} {index : Nat}
    (h : arrayIndex? segment = some index) : Numeral segment index ∧ index < indexLimit := by
  unfold arrayIndex? at h
  dsimp only at h
  split at h
  · cases h
  · rename_i hdigits
    obtain ⟨hne, hall⟩ := not_or.1 hdigits
    split at h
    · rename_i hlt
      obtain rfl := Option.some.inj h
      have hdigit := List.all_eq_true.1 (Decidable.not_not.1 hall)
      exact ⟨.of_isDigit hdigit fun he => hne (List.isEmpty_iff.2 he), hlt⟩
    · cases h

end Bind

namespace Value

/-- A step into a value. The place of an item is a word of 64 bits. -/
inductive Step where
  | item (place : UInt64)
  | field (key : String)

/-- A step in writing: the place in decimal, or the key. -/
def Step.text : Step → String
  | .item place => toString place.toNat
  | .field key => key

/-- What a part of a path is read as. -/
def Step.Reads (segment : String) : Step → Prop
  | .item place => (∀ c ∈ segment.toList, c.isDigit) ∧ Numeral segment place.toNat
  | .field key => segment = key

/-- What a step leads to, below an array only in front of its end. -/
def enter? : Step → Value → Option Value
  | .item place, .array items => items[place.toNat]?
  | .field key, .object fields => fields.lookup key
  | _, _ => none

/-- The value at a position, if there is one. -/
def at? (position : List Step) (value : Value) : Option Value :=
  position.foldlM (fun current step => current.enter? step) value

/-- A position as a path. -/
def address (position : List Step) : String := ".".intercalate (position.map Step.text)

/-- Every key on the way can be told from its neighbours in a path. -/
def Addressable (position : List Step) : Prop :=
  ∀ key, .field key ∈ position → key ≠ "" ∧ '.' ∉ key.toList

theorem at?_cons (step : Step) (rest : List Step) (value : Value) :
    value.at? (step :: rest) = (value.enter? step).bind (at? rest) := by
  rw [at?, List.foldlM_cons]
  rfl

/-! ## From a position to its address -/

theorem Step.segmentsOf_text {step : Step} {rest : List Step} (h : Addressable (step :: rest)) :
    Bind.segmentsOf step.text = [step.text] := by
  cases step with
  | item place =>
    have hnumeral := Numeral.of_toString place.toNat
    refine Bind.segmentsOf_eq_singleton (fun hempty => ?_) fun hdot => ?_
    · exact hnumeral.ne_nil (congrArg String.toList hempty)
    · exact absurd (hnumeral.isDigit '.' hdot) (by decide)
  | field key =>
    obtain ⟨hne, hdot⟩ := h key List.mem_cons_self
    exact Bind.segmentsOf_eq_singleton hne hdot

theorem Addressable.tail {step : Step} {rest : List Step} (h : Addressable (step :: rest)) :
    Addressable rest :=
  fun key hm => h key (List.mem_cons_of_mem _ hm)

/-- Between the dots of an address stand the steps. -/
theorem segmentsOf_address {position : List Step} (h : Addressable position) :
    Bind.segmentsOf (address position) = position.map Step.text := by
  induction position with
  | nil => rfl
  | cons step rest ih =>
    have hstep := Step.segmentsOf_text h
    have hrest := ih h.tail
    unfold address at hrest ⊢
    cases rest with
    | nil => exact hstep
    | cons next rest =>
      rw [List.map_cons, List.map_cons, String.intercalate_cons_cons, Bind.segmentsOf_dotted,
        hstep, ← List.map_cons, hrest]
      rfl

theorem child?_text {step : Step} {value found : Value} (h : value.enter? step = some found) :
    value.child? step.text = some found := by
  cases step with
  | item place =>
    cases value with
    | array items =>
      rw [child?, Step.text, Bind.arrayIndex?_of_numeral (.of_toString place.toNat),
        if_pos (Bind.toNat_lt_indexLimit place)]
      exact h
    | _ => cases h
  | field key =>
    cases value with
    | object fields => exact h
    | _ => cases h

theorem follow?_text {position : List Step} {value found : Value}
    (h : value.at? position = some found) :
    value.follow? (position.map Step.text) = some found := by
  induction position generalizing value with
  | nil => exact h
  | cons step rest ih =>
    rw [at?_cons] at h
    obtain ⟨next, hnext, hrest⟩ := Option.bind_eq_some_iff.1 h
    rw [List.map_cons, follow?_cons, child?_text hnext]
    exact ih hrest

/-! ## From a path to a position -/

theorem exists_enter?_of_child? {segment : String} {value found : Value}
    (h : value.child? segment = some found) :
    ∃ step, Step.Reads segment step ∧ value.enter? step = some found := by
  cases value with
  | object fields => exact ⟨.field segment, rfl, h⟩
  | array items =>
    obtain ⟨index, hindex, hitem⟩ := Option.bind_eq_some_iff.1 h
    obtain ⟨hnumeral, hlt⟩ := Bind.numeral_of_arrayIndex? hindex
    have hplace : (UInt64.ofNatLT index hlt).toNat = index := UInt64.toNat_ofNatLT
    refine ⟨.item (.ofNatLT index hlt), ⟨hnumeral.isDigit, ?_⟩, ?_⟩
    · rw [hplace]
      exact hnumeral
    · rw [enter?, hplace]
      exact hitem
  | _ => cases h

theorem child?_of_enter? {segment : String} {step : Step} {value found : Value}
    (hreads : Step.Reads segment step) (h : value.enter? step = some found) :
    value.child? segment = some found := by
  cases step with
  | item place =>
    cases value with
    | array items =>
      rw [child?, Bind.arrayIndex?_of_numeral hreads.2, if_pos (Bind.toNat_lt_indexLimit place)]
      exact h
    | _ => cases h
  | field key =>
    obtain rfl : segment = key := hreads
    cases value with
    | object fields => exact h
    | _ => cases h

/-- A path leads to the values at the positions that it is read as, and to no other. -/
theorem follow?_eq_some_iff {segments : List String} {value found : Value} :
    value.follow? segments = some found ↔
      ∃ position, List.Forall₂ Step.Reads segments position ∧ value.at? position = some found := by
  induction segments generalizing value with
  | nil =>
    constructor
    · intro h
      exact ⟨[], .nil, h⟩
    · rintro ⟨_, hreads, h⟩
      obtain rfl := List.forall₂_nil_left_iff.1 hreads
      exact h
  | cons segment rest ih =>
    rw [follow?_cons, Option.bind_eq_some_iff]
    constructor
    · rintro ⟨next, hnext, hrest⟩
      obtain ⟨step, hstep, henter⟩ := exists_enter?_of_child? hnext
      obtain ⟨position, hreads, hat⟩ := ih.1 hrest
      refine ⟨step :: position, .cons hstep hreads, ?_⟩
      rw [at?_cons, henter]
      exact hat
    · rintro ⟨_, hreads, h⟩
      obtain ⟨step, position, hstep, hposition, rfl⟩ := List.forall₂_cons_left_iff.1 hreads
      rw [at?_cons] at h
      obtain ⟨next, hnext, hat⟩ := Option.bind_eq_some_iff.1 h
      exact ⟨next, child?_of_enter? hstep hnext, ih.2 ⟨position, hposition, hat⟩⟩

theorem child?_eq_none_of_large {segment : String} {number : Nat} (h : Numeral segment number)
    (hlarge : Bind.indexLimit ≤ number) (items : List Value) :
    (array items).child? segment = none := by
  rw [child?, Bind.arrayIndex?_of_numeral h, if_neg (Nat.not_lt.2 hlarge)]
  rfl

/-- Every place of a value has an address, as long as no key on the way is empty or has a
dot. Whatever a path finds, `null` apart, is the value at a position that the path is read
as, and below an array a number that does not fit 64 bits finds nothing. -/
theorem found_at_address (env : Value) :
    (∀ position found, env.at? position = some found → Addressable position →
      Bind.evaluate ⟨address position, .null⟩ env = found) ∧
    (∀ path found, Bind.evaluate ⟨path, .null⟩ env = found → found ≠ .null →
      ∃ position, List.Forall₂ Step.Reads (Bind.segmentsOf path) position ∧
        env.at? position = some found) ∧
    ∀ path before segment after position items number,
      Bind.segmentsOf path = before ++ segment :: after →
      List.Forall₂ Step.Reads before position → env.at? position = some (.array items) →
      Numeral segment number → Bind.indexLimit ≤ number →
      Bind.evaluate ⟨path, .null⟩ env = .null := by
  refine ⟨?address, ?found, ?large⟩
  case address =>
    intro position found h haddressable
    unfold Bind.evaluate Bind.segments
    rw [segmentsOf_address haddressable, follow?_text h]
    rfl
  case found =>
    intro path found h hne
    unfold Bind.evaluate Bind.segments at h
    cases hf : env.follow? (Bind.segmentsOf path) with
    | none =>
      rw [hf] at h
      exact absurd h.symm hne
    | some value =>
      rw [hf] at h
      obtain rfl : value = found := h
      exact follow?_eq_some_iff.1 hf
  case large =>
    intro path before segment after position items number hpath hbefore hitems hnumeral hlarge
    unfold Bind.evaluate Bind.segments
    rw [hpath, follow?_append, follow?_eq_some_iff.2 ⟨position, hbefore, hitems⟩,
      Option.bind_some, follow?_cons, child?_eq_none_of_large hnumeral hlarge]
    rfl

/-- Rows of an environment, with a key that looks like a place. -/
def rowsByPlace : Value :=
  .object [("rows", .array [.null, .object [("0", .string "b")]])]

theorem rowsByPlace_found :
    address [.field "rows", .item 1, .field "0"] = "rows.1.0" ∧
      Bind.evaluate ⟨"rows.1.0", .null⟩ rowsByPlace = .string "b" ∧
      (∃ position, List.Forall₂ Step.Reads (Bind.segmentsOf "rows.001.0") position ∧
        rowsByPlace.at? position = some (.string "b")) ∧
      Bind.evaluate ⟨"rows.18446744073709551617.0", .null⟩ rowsByPlace = .null := by
  obtain ⟨haddress, hfound, hlarge⟩ := found_at_address rowsByPlace
  have hwritten : address [.field "rows", .item 1, .field "0"] = "rows.1.0" := by decide
  refine ⟨hwritten, ?_, ?_, ?_⟩
  · rw [← hwritten]
    refine haddress _ _ rfl fun key hm => ?_
    simp only [List.mem_cons, Step.field.injEq, reduceCtorEq, List.not_mem_nil, or_false,
      false_or] at hm
    rcases hm with rfl | rfl <;> decide
  · exact hfound "rows.001.0" _ rfl (by simp)
  · exact hlarge _ ["rows"] "18446744073709551617" ["0"] [.field "rows"] _ 18446744073709551617
      (by decide) (.cons rfl .nil) rfl ⟨0, by decide⟩ (by decide)

end Value

end DeclaredUi
