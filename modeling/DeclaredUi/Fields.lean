/-! Ordered fields: the pairs of a map in the order in which their keys were
first written. Look-up is core's `List.lookup`; `Fields.insert` gives a key its
value and keeps the place of a key that is there already. That no key occurs
twice is the predicate `Fields.Unique`, which `insert` keeps. -/

namespace DeclaredUi

/-- Pairs of a map in the order of their keys. -/
abbrev Fields (α : Type) := List (String × α)

namespace Fields

variable {α β : Type}

def keys (fields : List (String × α)) : List String := fields.map Prod.fst

def Unique (fields : List (String × α)) : Prop := (keys fields).Nodup

/-- Gives `key` the value `value`: in its place if it occurs, else at the end. -/
def insert (key : String) (value : α) : List (String × α) → List (String × α)
  | [] => [(key, value)]
  | (k, v) :: rest => if k = key then (key, value) :: rest else (k, v) :: insert key value rest

def ofList (pairs : List (String × α)) : List (String × α) :=
  pairs.foldl (fun fields pair => insert pair.1 pair.2 fields) []

def mapValues (f : α → β) (fields : List (String × α)) : List (String × β) :=
  fields.map fun pair => (pair.1, f pair.2)

@[simp] theorem keys_nil : keys ([] : List (String × α)) = [] := rfl

@[simp] theorem keys_cons (pair : String × α) (rest : List (String × α)) :
    keys (pair :: rest) = pair.1 :: keys rest := rfl

@[simp] theorem keys_mapValues (f : α → β) (fields : List (String × α)) :
    keys (mapValues f fields) = keys fields := by
  simp [keys, mapValues]

@[simp] theorem lookup_mapValues (f : α → β) (fields : List (String × α)) (key : String) :
    (mapValues f fields).lookup key = (fields.lookup key).map f := by
  induction fields with
  | nil => rfl
  | cons pair rest ih =>
    change List.lookup key ((pair.1, f pair.2) :: mapValues f rest) = _
    obtain ⟨k, v⟩ := pair
    by_cases h : (key == k) = true
    · simp [List.lookup_cons, h]
    · simp [List.lookup_cons, h, ih]

@[simp] theorem lookup_insert_self (key : String) (value : α) (fields : List (String × α)) :
    (insert key value fields).lookup key = some value := by
  induction fields with
  | nil => simp [insert]
  | cons pair rest ih =>
    obtain ⟨k, v⟩ := pair
    by_cases h : k = key
    · simp [insert, h]
    · have hk : (key == k) = false := by simpa using fun he : key = k => h he.symm
      simp [insert, h, List.lookup_cons, hk, ih]

theorem lookup_insert_of_ne {key other : String} (h : other ≠ key) (value : α)
    (fields : List (String × α)) :
    (insert key value fields).lookup other = fields.lookup other := by
  induction fields with
  | nil =>
    have ho : (other == key) = false := by simpa using h
    simp [insert, List.lookup_cons, ho]
  | cons pair rest ih =>
    obtain ⟨k, v⟩ := pair
    by_cases hk : k = key
    · subst hk
      have ho : (other == k) = false := by simpa using h
      simp [insert, List.lookup_cons, ho]
    · simp only [insert, hk, if_false, List.lookup_cons]
      split <;> simp_all

/-- A later insertion of the same key replaces the earlier one in place. -/
@[simp] theorem insert_insert (key : String) (first second : α) (fields : List (String × α)) :
    insert key second (insert key first fields) = insert key second fields := by
  induction fields with
  | nil => simp [insert]
  | cons pair rest ih =>
    obtain ⟨k, v⟩ := pair
    by_cases h : k = key <;> simp [insert, h, ih]

theorem keys_insert (key : String) (value : α) (fields : List (String × α)) :
    keys (insert key value fields) =
      if key ∈ keys fields then keys fields else keys fields ++ [key] := by
  induction fields with
  | nil => simp [insert]
  | cons pair rest ih =>
    obtain ⟨k, v⟩ := pair
    by_cases h : k = key
    · simp [insert, h]
    · have hk : key ≠ k := fun he => h he.symm
      by_cases hm : key ∈ keys rest <;> simp [insert, h, hk, ih, hm]

theorem Unique.insert {fields : List (String × α)} (unique : Unique fields) (key : String)
    (value : α) : Unique (insert key value fields) := by
  unfold Unique
  rw [keys_insert]
  split
  · exact unique
  · rename_i h
    exact List.nodup_append.2 ⟨unique, by simp, by
      intro a ha b hb
      simp only [List.mem_singleton] at hb
      subst hb
      exact fun he => h (he ▸ ha)⟩

theorem unique_ofList (pairs : List (String × α)) : Unique (ofList pairs) := by
  suffices h : ∀ start : List (String × α), Unique start →
      Unique (pairs.foldl (fun fields pair => Fields.insert pair.1 pair.2 fields) start) from
    h [] (by simp [Unique])
  intro start hs
  induction pairs generalizing start with
  | nil => exact hs
  | cons pair rest ih => exact ih _ (hs.insert pair.1 pair.2)

end Fields

end DeclaredUi
