import HttpAdapter.Table
import Mathlib.Data.List.Induction
import Mathlib.Data.List.Perm.Basic

/-!
Tables under writes: where a written key stands, what a changed value changes, and the order in
which one table goes on from another.
-/

namespace HttpAdapter.Table

variable {α β : Type}

theorem get?_eq_none_iff {t : Table α} {key : String} : t.get? key = none ↔ key ∉ t.keys := by
  rw [← get?_isSome_iff, Option.not_isSome_iff_eq_none]

/-- Where no key occurs twice, every entry is found by its key. -/
theorem get?_of_mem {t : Table α} {key : String} {value : α} (distinct : t.keys.Nodup)
    (member : (key, value) ∈ t) : t.get? key = some value := by
  induction t with
  | nil => simp at member
  | cons entry rest ih =>
      obtain ⟨k, v⟩ := entry
      obtain ⟨fresh, distinct⟩ := List.nodup_cons.mp distinct
      rcases List.mem_cons.mp member with equal | member
      · cases equal
        simp [get?]
      · have different : k ≠ key := by
          rintro rfl
          exact fresh (List.mem_map.mpr ⟨_, member, rfl⟩)
        simp only [get?, if_neg different]
        exact ih distinct member

/-- A new key comes last. -/
theorem set_of_get?_eq_none {t : Table α} {key : String} (value : α)
    (new : t.get? key = none) : t.set key value = t ++ [(key, value)] := by
  induction t with
  | nil => rfl
  | cons entry rest ih =>
      obtain ⟨k, v⟩ := entry
      by_cases hk : k = key
      · simp [get?, hk] at new
      · simp only [get?, if_neg hk] at new
        simp [set, hk, ih new]

/-- A value that a key has already is no change. -/
theorem set_of_get?_eq_some {t : Table α} {key : String} {value : α}
    (held : t.get? key = some value) : t.set key value = t := by
  induction t with
  | nil => simp [get?] at held
  | cons entry rest ih =>
      obtain ⟨k, v⟩ := entry
      by_cases hk : k = key
      · simp only [get?, if_pos hk, Option.some.injEq] at held
        simp [set, hk, held]
      · simp only [get?, if_neg hk] at held
        simp [set, hk, ih held]

/-- Setting a key keeps the keys distinct. -/
theorem nodup_keys_set {t : Table α} (key : String) (value : α) (distinct : t.keys.Nodup) :
    (t.set key value).keys.Nodup := by
  rw [keys_set]
  split
  · exact distinct
  · rename_i new
    rw [List.nodup_append]
    refine ⟨distinct, by simp, ?_⟩
    intro k member other equal
    simp only [List.mem_singleton] at equal
    rintro rfl
    exact new (equal ▸ member)

/-- A changed value is found changed, and the others are as they were. -/
theorem get?_update (t : Table α) (key other : String) (change : α → α) :
    (t.update key change).get? other =
      if key = other then (t.get? other).map change else t.get? other := by
  induction t with
  | nil => simp [update, get?]
  | cons entry rest ih =>
      obtain ⟨k, v⟩ := entry
      by_cases hk : k = key
      · subst hk
        by_cases h : k = other <;> simp [update, get?, h]
      · by_cases h : k = other
        · subst h
          simp [update, get?, hk, Ne.symm hk]
        · simp [update, get?, hk, h, ih]

/-- A change that leaves a part of every value leaves that part of what is found. -/
theorem map_get?_update {part : α → β} {change : α → α}
    (same : ∀ value, part (change value) = part value) (t : Table α) (key other : String) :
    ((t.update key change).get? other).map part = (t.get? other).map part := by
  rw [get?_update]
  split
  · rw [Option.map_map]
    exact congrArg (Option.map · _) (funext same)
  · rfl

/-- A change that adds one item to what a value holds adds it to what the table holds. -/
theorem flatMap_update_perm {t : Table α} {key : String} {value : α} {change : α → α}
    (holds : α → List β) {item : β} (found : t.get? key = some value)
    (adds : holds (change value) = holds value ++ [item]) :
    ((t.update key change).flatMap (holds ·.2)).Perm (t.flatMap (holds ·.2) ++ [item]) := by
  induction t with
  | nil => simp [get?] at found
  | cons entry rest ih =>
      obtain ⟨k, v⟩ := entry
      by_cases hk : k = key
      · simp only [get?, if_pos hk, Option.some.injEq] at found
        subst found
        simp only [update, if_pos hk, List.flatMap_cons, adds, List.append_assoc]
        exact List.Perm.append_left _ List.perm_append_comm
      · simp only [get?, if_neg hk] at found
        simp only [update, if_neg hk, List.flatMap_cons, List.append_assoc]
        exact List.Perm.append_left _ (ih found)

/-- A change that leaves what a value holds leaves what the table holds. -/
theorem flatMap_update_of_same {change : α → α} (holds : α → List β)
    (same : ∀ value, holds (change value) = holds value) (t : Table α) (key : String) :
    (t.update key change).flatMap (holds ·.2) = t.flatMap (holds ·.2) := by
  induction t with
  | nil => rfl
  | cons entry rest ih =>
      obtain ⟨k, v⟩ := entry
      by_cases hk : k = key
      · simp [update, hk, same]
      · simp only [update, if_neg hk, List.flatMap_cons, ih]

/-- A change that leaves every value leaves the table. -/
theorem update_of_same {change : α → α} (same : ∀ value, change value = value) (t : Table α)
    (key : String) : t.update key change = t := by
  induction t with
  | nil => rfl
  | cons entry rest ih =>
      obtain ⟨k, v⟩ := entry
      by_cases hk : k = key
      · simp [update, hk, same]
      · simp [update, hk, ih]

/-- Two changes of one key are one. -/
theorem update_update (t : Table α) (key : String) (first second : α → α) :
    (t.update key first).update key second = t.update key (second ∘ first) := by
  induction t with
  | nil => rfl
  | cons entry rest ih =>
      obtain ⟨k, v⟩ := entry
      by_cases hk : k = key
      · simp [update, hk]
      · simp [update, hk, ih]

/-- A changed value might as well have been set that way. -/
theorem update_set (t : Table α) (key : String) (value : α) (change : α → α) :
    (t.set key value).update key change = t.set key (change value) := by
  induction t with
  | nil => simp [set, update]
  | cons entry rest ih =>
      obtain ⟨k, v⟩ := entry
      by_cases hk : k = key
      · simp [set, update, hk]
      · simp [set, update, hk, ih]

/-- What is found is an entry of the table. -/
theorem mem_of_get? {t : Table α} {key : String} {value : α} (found : t.get? key = some value) :
    (key, value) ∈ t := by
  induction t with
  | nil => simp [get?] at found
  | cons entry rest ih =>
      obtain ⟨k, v⟩ := entry
      by_cases hk : k = key
      · simp only [get?, if_pos hk, Option.some.injEq] at found
        rw [hk, found]
        exact List.mem_cons_self
      · simp only [get?, if_neg hk] at found
        exact List.mem_cons_of_mem _ (ih found)

/-- What is made of each value is made of the one that is found. -/
theorem get?_map_value (items : List β) (name : β → String) (value : β → α) (key : String) :
    get? (items.map fun b => (name b, value b)) key =
      (get? (items.map fun b => (name b, b)) key).map value := by
  induction items with
  | nil => rfl
  | cons b items ih =>
      by_cases same : name b = key
      · simp [get?, same]
      · simpa [get?, same] using ih

theorem ofList_append_singleton (entries : List (String × α)) (key : String) (value : α) :
    ofList (entries ++ [(key, value)]) = (ofList entries).set key value := by
  rw [ofList, List.foldl_append]
  rfl

/-- Tables with the same keys in order and the same value for each are the same. -/
theorem eq_of_get? {t u : Table α} (distinct : t.keys.Nodup) (keys : t.keys = u.keys)
    (values : ∀ key, t.get? key = u.get? key) : t = u := by
  induction t generalizing u with
  | nil => exact (List.map_eq_nil_iff.mp keys.symm).symm
  | cons entry rest ih =>
      obtain ⟨k, v⟩ := entry
      cases u with
      | nil => cases keys
      | cons entry' rest' =>
          obtain ⟨k', v'⟩ := entry'
          obtain ⟨rfl, others⟩ := List.cons_eq_cons.mp keys
          change Table.keys rest = Table.keys rest' at others
          obtain ⟨fresh, distinct⟩ := List.nodup_cons.mp distinct
          have first : v = v' := by simpa [get?] using values k
          have same : rest = rest' := by
            refine ih distinct others fun key => ?_
            by_cases here : k = key
            · subst here
              rw [get?_eq_none_iff.mpr fresh, get?_eq_none_iff.mpr (others ▸ fresh)]
            · simpa [get?, here] using values key
          rw [first, same]

theorem nodup_keys_ofList (entries : List (String × α)) : (ofList entries).keys.Nodup := by
  induction entries using List.reverseRecOn with
  | nil => exact List.nodup_nil
  | append_singleton entries entry ih =>
      rw [ofList_append_singleton]
      exact nodup_keys_set entry.1 entry.2 ih

/-- The keys of a table are in the order in which they were first set. -/
theorem keys_ofList (entries : List (String × α)) :
    (ofList entries).keys = (entries.map (·.1)).eraseDups := by
  induction entries using List.reverseRecOn with
  | nil => rfl
  | append_singleton entries entry ih =>
      obtain ⟨key, value⟩ := entry
      rw [ofList_append_singleton, keys_set, ih, List.map_append, List.eraseDups_append]
      simp only [List.mem_eraseDups]
      split
      · rename_i held
        simp [List.removeAll, held]
      · rename_i new
        simp [List.removeAll, new, List.eraseDups_cons]

/-- The value of a key is the last that was set. -/
theorem get?_ofList (entries : List (String × α)) (key : String) :
    (ofList entries).get? key = ((entries.filter (·.1 = key)).map (·.2)).getLast? := by
  induction entries using List.reverseRecOn with
  | nil => rfl
  | append_singleton entries entry ih =>
      obtain ⟨other, value⟩ := entry
      rw [ofList_append_singleton, get?_set, ih, List.filter_append, List.map_append]
      split
      · rename_i same
        simp [same]
      · rename_i different
        simp [different]

/-- What a table holds, a later one holds under the same keys. -/
def Extends (t u : Table α) : Prop := ∀ key value, t.get? key = some value → u.get? key = some value

theorem Extends.refl (t : Table α) : t.Extends t := fun _ _ found => found

theorem Extends.trans {t u v : Table α} (first : t.Extends u) (second : u.Extends v) :
    t.Extends v := fun key value found => second key value (first key value found)

/-- A table goes on with a key that is new or had the value before. -/
theorem extends_set {t : Table α} {key : String} {value : α}
    (held : ∀ old, t.get? key = some old → old = value) : t.Extends (t.set key value) := by
  intro k v found
  rw [get?_set]
  split
  · rename_i equal
    subst equal
    rw [held v found]
  · exact found

end HttpAdapter.Table
