import HttpAdapter.Fault
import HttpAdapter.Proofs.Except

/-!
Rows that fail as the first of their items fails.  A call on all items of a row does so,
`mapM_eq_error_iff`, and so does whatever reports the first of the faults that its items may have,
`firstFailure_iff`.
-/

namespace HttpAdapter.Catalog

variable {α : Type} {fails : α → Fault → Prop} {possible : α → List Fault}

/-- An item of a row fails in this way, and none in front of it fails in any. -/
def FirstFailure (fails : α → Fault → Prop) (items : List α) (fault : Fault) : Prop :=
  ∃ front item behind, items = front ++ item :: behind ∧
    (∀ earlier ∈ front, ∀ other, ¬ fails earlier other) ∧ fails item fault

theorem firstFailure_cons {item : α} {items : List α} {fault : Fault} :
    FirstFailure fails (item :: items) fault ↔
      fails item fault ∨ (∀ other, ¬ fails item other) ∧ FirstFailure fails items fault := by
  constructor
  · rintro ⟨_ | ⟨first, front⟩, failing, behind, parts, sound, failure⟩
    · cases parts
      exact Or.inl failure
    · cases parts
      rw [List.forall_mem_cons] at sound
      exact Or.inr ⟨sound.1, front, failing, behind, rfl, sound.2, failure⟩
  · rintro (failure | ⟨sound, front, failing, behind, rfl, earlier, failure⟩)
    · exact ⟨[], item, items, rfl, by simp, failure⟩
    · have all := List.forall_mem_cons.mpr ⟨sound, earlier⟩
      exact ⟨item :: front, failing, behind, rfl, all, failure⟩

/-- Where an item fails with the first of its possible faults, a row of items does. -/
theorem firstFailure_iff {items : List α} {fault : Fault}
    (each : ∀ item fault, fails item fault ↔ (possible item).head? = some fault) :
    FirstFailure fails items fault ↔ (items.flatMap possible).head? = some fault := by
  induction items with
  | nil => simp [FirstFailure]
  | cons item items ih =>
      rw [firstFailure_cons, ih, List.flatMap_cons, List.head?_append]
      simp only [each]
      cases possible item with
      | nil => simp
      | cons first others => simp

/-- Some item of a row is the first to fail exactly if any of them fails. -/
theorem exists_firstFailure_iff {items : List α} :
    (∃ fault, FirstFailure fails items fault) ↔ ∃ item ∈ items, ∃ fault, fails item fault := by
  induction items with
  | nil => simp [FirstFailure]
  | cons item items ih =>
      simp only [firstFailure_cons, exists_or, exists_and_left, ih, List.exists_mem_cons_iff]
      constructor
      · rintro (failure | ⟨-, later⟩)
        · exact Or.inl failure
        · exact Or.inr later
      · rintro (failure | later)
        · exact Or.inl failure
        · by_cases first : ∃ fault, fails item fault
          · exact Or.inl first
          · exact Or.inr ⟨not_exists.mp first, later⟩

/-- A call on all items of a row fails as it does on the first item that it fails on. -/
theorem mapM_eq_error_iff {β : Type} {f : α → Except Fault β} {items : List α} {fault : Fault} :
    items.mapM f = .error fault ↔
      FirstFailure (fun item fault => f item = .error fault) items fault := by
  have each (item : α) (fault : Fault) :
      f item = .error fault ↔ (faults (f item)).head? = some fault :=
    (ReportsFirst.self (f item)).eq_error_iff
  have row : ReportsFirst (items.mapM f) (items.flatMap fun item => faults (f item)) :=
    ReportsFirst.mapM fun item _ => .self (f item)
  rw [row.eq_error_iff, firstFailure_iff each]

end HttpAdapter.Catalog
