/-!
Tables in the order in which their keys were first set.
-/

namespace HttpAdapter

/-- A table from names to values. -/
abbrev Table (α : Type) := List (String × α)

namespace Table

variable {α : Type}

/-- The value of a key. -/
def get? (t : Table α) (key : String) : Option α :=
  match t with
  | [] => none
  | (k, v) :: rest => if k = key then some v else get? rest key

/-- The keys in order. -/
def keys (t : Table α) : List String := t.map (·.1)

/-- The table with a value for a key.  A key that is there keeps its place, a new one comes last. -/
def set (t : Table α) (key : String) (value : α) : Table α :=
  match t with
  | [] => [(key, value)]
  | (k, v) :: rest => if k = key then (key, value) :: rest else (k, v) :: set rest key value

/-- The table with a changed value for a key, if it is there. -/
def update (t : Table α) (key : String) (change : α → α) : Table α :=
  match t with
  | [] => []
  | (k, v) :: rest => if k = key then (k, change v) :: rest else (k, v) :: update rest key change

/-- The table with all these values set, one after the other. -/
def ofList (entries : List (String × α)) : Table α :=
  entries.foldl (fun t e => t.set e.1 e.2) []

/-- The key just set has its value, and the others have theirs. -/
theorem get?_set (t : Table α) (key other : String) (value : α) :
    (t.set key value).get? other = if key = other then some value else t.get? other := by
  induction t with
  | nil => simp [set, get?]
  | cons entry rest ih =>
      obtain ⟨k, v⟩ := entry
      by_cases hk : k = key
      · subst hk
        by_cases h : k = other <;> simp [set, get?, h]
      · by_cases h : k = other
        · subst h
          simp [set, get?, hk, Ne.symm hk]
        · simp [set, get?, hk, h, ih]

/-- Setting a key adds it at the end if it is new and changes no other place. -/
theorem keys_set (t : Table α) (key : String) (value : α) :
    (t.set key value).keys = if key ∈ t.keys then t.keys else t.keys ++ [key] := by
  induction t with
  | nil => simp [set, keys]
  | cons entry rest ih =>
      obtain ⟨k, v⟩ := entry
      unfold keys at ih
      by_cases hk : k = key
      · simp [set, keys, hk]
      · by_cases hm : key ∈ rest.map (·.1)
        · simp [set, keys, hk, ih, hm]
        · simp [set, keys, hk, Ne.symm hk, ih, hm]

/-- Changing a value changes no key. -/
@[simp] theorem keys_update (t : Table α) (key : String) (change : α → α) :
    (t.update key change).keys = t.keys := by
  induction t with
  | nil => rfl
  | cons entry rest ih =>
      obtain ⟨k, v⟩ := entry
      unfold keys at ih
      by_cases hk : k = key <;> simp [update, keys, hk, ih]

/-- A key has a value exactly if it is among the keys. -/
theorem get?_isSome_iff (t : Table α) (key : String) : (t.get? key).isSome ↔ key ∈ t.keys := by
  induction t with
  | nil => simp [get?, keys]
  | cons entry rest ih =>
      obtain ⟨k, v⟩ := entry
      unfold keys at ih
      by_cases h : k = key
      · simp [get?, keys, h]
      · simp [get?, keys, h, Ne.symm h, ih]

end Table

end HttpAdapter
