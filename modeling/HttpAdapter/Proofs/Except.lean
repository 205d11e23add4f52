import Mathlib.Data.List.Forall2

/-!
Calls that may fail, one after the other: what the success of a row of them says of each, and with
which fault the row fails.
-/

namespace HttpAdapter

variable {ε α β : Type}

theorem bind_eq_ok {x : Except ε α} {f : α → Except ε β} {b : β} :
    (x >>= f) = .ok b ↔ ∃ a, x = .ok a ∧ f a = .ok b := by
  cases x with
  | error fault => simp [bind, Except.bind]
  | ok a => simp [bind, Except.bind]

theorem bind_eq_error {x : Except ε α} {f : α → Except ε β} {fault : ε} :
    (x >>= f) = .error fault ↔ x = .error fault ∨ ∃ a, x = .ok a ∧ f a = .error fault := by
  cases x with
  | error other => simp [bind, Except.bind]
  | ok a => simp [bind, Except.bind]

/-- What is only made of a result fails as the result does. -/
theorem bind_pure_eq_error {x : Except ε α} {f : α → β} {fault : ε} :
    (x >>= fun a => pure (f a)) = .error fault ↔ x = .error fault := by
  rw [bind_eq_error]
  simp [pure, Except.pure]

theorem map_eq_ok {x : Except ε α} {f : α → β} {b : β} :
    x.map f = .ok b ↔ ∃ a, x = .ok a ∧ f a = b := by
  cases x with
  | error fault => simp [Except.map]
  | ok a => simp [Except.map]

theorem map_eq_error {x : Except ε α} {f : α → β} {fault : ε} :
    x.map f = .error fault ↔ x = .error fault := by
  cases x with
  | error other => simp [Except.map]
  | ok a => simp [Except.map]

theorem exists_ok_of_isOk {x : Except ε α} (success : x.isOk = true) : ∃ a, x = .ok a := by
  cases x with
  | error fault => cases success
  | ok a => exact ⟨a, rfl⟩

theorem exists_error_of_not_isOk {x : Except ε α} (failed : (!x.isOk) = true) :
    ∃ fault, x = .error fault := by
  cases x with
  | error fault => exact ⟨fault, rfl⟩
  | ok a => cases failed

/-- Where a call succeeds on all items, the results are those of the items. -/
theorem forall₂_of_mapM_eq_ok {f : α → Except ε β} {as : List α} {bs : List β}
    (success : as.mapM f = .ok bs) : List.Forall₂ (fun a b => f a = .ok b) as bs := by
  induction as generalizing bs with
  | nil =>
      cases success
      exact .nil
  | cons a as ih =>
      rw [List.mapM_cons] at success
      obtain ⟨b, first, success⟩ := bind_eq_ok.mp success
      obtain ⟨others, rest, success⟩ := bind_eq_ok.mp success
      cases success
      exact .cons first (ih rest)

/-- A call that succeeds on all items gives their results. -/
theorem mapM_eq_ok_map {f : α → Except ε β} {g : α → β} {as : List α}
    (success : ∀ a ∈ as, f a = .ok (g a)) : as.mapM f = .ok (as.map g) := by
  induction as with
  | nil => rfl
  | cons a as ih =>
      obtain ⟨first, rest⟩ := List.forall_mem_cons.mp success
      rw [List.mapM_cons, first, ih rest]
      rfl

/-- Results of the items are the results of a call on all of them. -/
theorem mapM_eq_ok_of_forall₂ {f : α → Except ε β} {as : List α} {bs : List β}
    (related : List.Forall₂ (fun a b => f a = .ok b) as bs) : as.mapM f = .ok bs := by
  induction related with
  | nil => rfl
  | cons first rest ih =>
      rw [List.mapM_cons, first, ih]
      rfl

/-- Where each item is related to what it is mapped to, the rows are related item by item. -/
theorem forall₂_filterMap {R : α → β → Prop} {g : α → Option β} {as : List α}
    (each : ∀ a ∈ as, ∃ b, g a = some b ∧ R a b) : List.Forall₂ R as (as.filterMap g) := by
  induction as with
  | nil => exact .nil
  | cons a as ih =>
      obtain ⟨⟨b, mapped, related⟩, rest⟩ := List.forall_mem_cons.mp each
      rw [List.filterMap_cons, mapped]
      exact .cons related (ih rest)

/-- Each item on the right is related to one on the left. -/
theorem exists_of_mem_forall₂ {R : α → β → Prop} {as : List α} {bs : List β} {b : β}
    (related : List.Forall₂ R as bs) (member : b ∈ bs) : ∃ a ∈ as, R a b := by
  induction related with
  | nil => simp at member
  | cons first rest ih =>
      rcases List.mem_cons.mp member with rfl | member
      · exact ⟨_, List.mem_cons_self, first⟩
      · obtain ⟨a, inRest, result⟩ := ih member
        exact ⟨a, List.mem_cons_of_mem _ inRest, result⟩

/-- Rows that are related to one row are related to each other. -/
theorem forall₂_of_common {γ : Type} {R : α → β → Prop} {S : α → γ → Prop} {T : β → γ → Prop}
    {as : List α} {bs : List β} {cs : List γ} (first : List.Forall₂ R as bs)
    (second : List.Forall₂ S as cs) (each : ∀ a b c, R a b → S a c → T b c) :
    List.Forall₂ T bs cs := by
  induction first generalizing cs with
  | nil =>
      cases second
      exact .nil
  | cons left _ ih =>
      obtain _ | ⟨right, rest⟩ := second
      exact .cons (each _ _ _ left right) (ih rest)

/-- The faults of a call: one if it fails, else none. -/
def faults : Except ε α → List ε
  | .error fault => [fault]
  | .ok _ => []

/-- A call fails exactly if there is one of these faults, and then with the first. -/
def ReportsFirst (x : Except ε α) (possible : List ε) : Prop := (faults x).head? = possible.head?

theorem faults_map (x : Except ε α) (f : α → β) : faults (x.map f) = faults x := by
  cases x <;> rfl

theorem faults_eq_nil_iff {x : Except ε α} : faults x = [] ↔ ∃ a, x = .ok a := by
  cases x with
  | error fault => simp [faults]
  | ok a => simp [faults]

namespace ReportsFirst

theorem self (x : Except ε α) : ReportsFirst x (faults x) := rfl

theorem map {x : Except ε α} {possible : List ε} (reports : ReportsFirst x possible)
    (f : α → β) : ReportsFirst (x.map f) possible := by
  rw [ReportsFirst, faults_map]
  exact reports

theorem eq_ok_iff {x : Except ε α} {possible : List ε} (reports : ReportsFirst x possible) :
    (∃ a, x = .ok a) ↔ possible = [] := by
  rw [← faults_eq_nil_iff, ← List.head?_eq_none_iff, reports, List.head?_eq_none_iff]

theorem eq_error_iff {x : Except ε α} {possible : List ε} {fault : ε}
    (reports : ReportsFirst x possible) : x = .error fault ↔ possible.head? = some fault := by
  rw [← reports]
  cases x with
  | error first => simp [faults]
  | ok a => simp [faults]

/-- The faults of the second call come behind those of the first. -/
theorem bind {x : Except ε α} {f : α → Except ε β} {first second : List ε}
    (reports : ReportsFirst x first) (onward : ∀ a, x = .ok a → ReportsFirst (f a) second) :
    ReportsFirst (x >>= f) (first ++ second) := by
  cases x with
  | error fault =>
      rw [ReportsFirst, List.head?_append, ← reports]
      rfl
  | ok a =>
      rw [reports.eq_ok_iff.mp ⟨a, rfl⟩, List.nil_append]
      exact onward a rfl

theorem mapM {f : α → Except ε β} {possible : α → List ε} {as : List α}
    (each : ∀ a ∈ as, ReportsFirst (f a) (possible a)) :
    ReportsFirst (as.mapM f) (as.flatMap possible) := by
  induction as with
  | nil => rfl
  | cons a as ih =>
      obtain ⟨first, rest⟩ := List.forall_mem_cons.mp each
      rw [List.mapM_cons, List.flatMap_cons]
      exact first.bind fun b _ => (ih rest).map (b :: ·)

theorem foldlM {f : β → α → Except ε β} {possible : α → List ε} {as : List α}
    (each : ∀ b, ∀ a ∈ as, ReportsFirst (f b a) (possible a)) (b : β) :
    ReportsFirst (as.foldlM f b) (as.flatMap possible) := by
  induction as generalizing b with
  | nil => rfl
  | cons a as ih =>
      rw [List.foldlM_cons, List.flatMap_cons]
      refine (each b a List.mem_cons_self).bind fun c _ => ?_
      exact ih (fun b a member => each b a (List.mem_cons_of_mem _ member)) c

end ReportsFirst

/-- Two calls fail with one fault, or both succeed with related results. -/
inductive SameResult (R : α → β → Prop) : Except ε α → Except ε β → Prop
  | error (fault : ε) : SameResult R (.error fault) (.error fault)
  | ok {a : α} {b : β} : R a b → SameResult R (.ok a) (.ok b)

namespace SameResult

variable {γ δ : Type} {R : α → β → Prop} {S : γ → δ → Prop} {x : Except ε α} {y : Except ε β}

theorem of_ok {a : α} {b : β} (same : SameResult R x y) (left : x = .ok a) (right : y = .ok b) :
    R a b := by
  subst left right
  cases same with
  | ok related => exact related

theorem rel_toOption (same : SameResult R x y) :
    Option.Rel (fun a b => x = .ok a ∧ y = .ok b ∧ R a b) x.toOption y.toOption := by
  cases same with
  | error => exact .none
  | ok related => exact .some ⟨rfl, rfl, related⟩

theorem map {f : α → γ} {g : β → δ} (same : SameResult R x y)
    (onward : ∀ a b, R a b → S (f a) (g b)) : SameResult S (x.map f) (y.map g) := by
  cases same with
  | error fault => exact .error fault
  | ok related => exact .ok (onward _ _ related)

theorem bind {f : α → Except ε γ} {g : β → Except ε δ} (same : SameResult R x y)
    (onward : ∀ a b, R a b → SameResult S (f a) (g b)) : SameResult S (x >>= f) (y >>= g) := by
  cases same with
  | error fault => exact .error fault
  | ok related => exact onward _ _ related

theorem mapM {f : α → Except ε γ} {g : β → Except ε δ} {as : List α} {bs : List β}
    (rows : List.Forall₂ R as bs) (each : ∀ a b, R a b → SameResult S (f a) (g b)) :
    SameResult (List.Forall₂ S) (as.mapM f) (bs.mapM g) := by
  induction rows with
  | nil => exact .ok .nil
  | cons first _ ih =>
      rw [List.mapM_cons, List.mapM_cons]
      refine (each _ _ first).bind fun c d result => ?_
      exact ih.map fun cs ds results => .cons result results

end SameResult

end HttpAdapter
