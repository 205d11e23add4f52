import HttpAdapter.Proofs.Catalog.Agreement

/-!
Catalogs that hold related files in the same order.  Registering further files that are related
keeps them so (`Parallel.registerAll`), and every name leads to the same in both.
-/

namespace HttpAdapter

/-- Two tables have the same names in the same order, with related values. -/
def Table.Parallel {α β : Type} (S : α → β → Prop) (t : Table α) (u : Table β) : Prop :=
  List.Forall₂ (fun a b => a.1 = b.1 ∧ S a.2 b.2) t u

namespace Table.Parallel

variable {α β : Type} {S : α → β → Prop} {t : Table α} {u : Table β}

theorem refl {T : α → α → Prop} (reflexive : ∀ a, T a a) (t : Table α) : Table.Parallel T t t :=
  List.forall₂_same.mpr fun _ _ => ⟨rfl, reflexive _⟩

theorem rel_get? (parallel : Table.Parallel S t u) (key : String) :
    Option.Rel S (t.get? key) (u.get? key) := by
  induction parallel with
  | nil => exact .none
  | @cons a b t u first _ ih =>
      obtain ⟨k, v⟩ := a
      obtain ⟨_, w⟩ := b
      obtain ⟨rfl, related⟩ := first
      simp only [Table.get?]
      split
      · exact .some related
      · exact ih

theorem set (parallel : Table.Parallel S t u) (key : String) {value : α} {value' : β}
    (related : S value value') : Table.Parallel S (t.set key value) (u.set key value') := by
  induction parallel with
  | nil => exact .cons ⟨rfl, related⟩ .nil
  | @cons a b t u first rest ih =>
      obtain ⟨k, v⟩ := a
      obtain ⟨_, w⟩ := b
      obtain ⟨rfl, old⟩ := first
      simp only [Table.set]
      split
      · exact .cons ⟨rfl, related⟩ rest
      · exact .cons ⟨rfl, old⟩ ih

/-- Rows of related items make parallel tables, if related items have one name. -/
theorem of_forall₂ {as : List α} {bs : List β} {name : α → String} {name' : β → String}
    (names : ∀ a b, S a b → name a = name' b) (related : List.Forall₂ S as bs) :
    Table.Parallel S (as.map fun a => (name a, a)) (bs.map fun b => (name' b, b)) := by
  rw [Table.Parallel, List.forall₂_map_left_iff, List.forall₂_map_right_iff]
  exact related.imp fun a b rel => ⟨names a b rel, rel⟩

end Table.Parallel

namespace Catalog

/-- Two catalogs hold related files, with what these declare, in the same order. -/
structure Parallel (R : SourceFile → SourceFile → Prop) (c d : Catalog) : Prop where
  files : Table.Parallel (FileEntry.Agrees R) c.files d.files
  messages : Table.Parallel (MessageEntry.Agrees R) c.messages d.messages

namespace Parallel

variable {R : SourceFile → SourceFile → Prop} {c d : Catalog}

theorem refl (reflexive : ∀ s, R s s) (c : Catalog) : c.Parallel R c := by
  have message (m : MessageEntry) : m.Agrees R m := ⟨reflexive _, rfl, rfl, rfl⟩
  have enum (e : EnumEntry) : e.Agrees R e := ⟨reflexive _, rfl, rfl, rfl⟩
  refine ⟨.refl (fun entry => ⟨reflexive _, ?_, ?_⟩) _, .refl message _⟩
  · exact List.forall₂_same.mpr fun m _ => message m
  · exact List.forall₂_same.mpr fun e _ => enum e

/-- Catalogs stay parallel when related files come behind what they hold. -/
theorem registerAll (alike : ∀ s t, R s t → s.Alike t) (parallel : c.Parallel R d)
    {r s : Request} (sources : List.Forall₂ R (c.sourcesOf r.files) (d.sourcesOf s.files))
    (success : (Outcome.each register c r.files).fault = none)
    (success' : (Outcome.each register d s.files).fault = none) :
    (c.registerAll r).Parallel R (d.registerAll s) := by
  have adds := adds_registerAll success
  have adds' := adds_registerAll success'
  have entries {s t : SourceFile} (related : R s t) := agrees_entry related (alike s t related)
  rw [Catalog.registerAll, Catalog.registerAll]
  refine ⟨?_, ?_⟩
  · rw [adds.files, adds'.files]
    refine List.rel_append parallel.files ?_
    rw [List.forall₂_map_left_iff, List.forall₂_map_right_iff]
    exact sources.imp fun s t related => ⟨(alike s t related).name, entries related⟩
  · rw [adds.messages, adds'.messages]
    refine List.rel_append parallel.messages ?_
    refine Table.Parallel.of_forall₂ (fun m n agrees => agrees.fullName alike) ?_
    exact List.rel_flatMap sources fun s t related => (entries related).messages

end Parallel

end Catalog

end HttpAdapter
