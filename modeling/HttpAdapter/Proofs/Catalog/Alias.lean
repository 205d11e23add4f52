import HttpAdapter.Catalog.Basic
import HttpAdapter.Proofs.ModulePath
import HttpAdapter.Proofs.Table
import Mathlib.Data.List.Perm.Subperm
import Mathlib.Data.List.Nodup
import Std.Data.String.ToNat

/-!
How a module comes to its name.  There are more numbered variants of a name than names in use, so
the search for one that is available ends, and with the first of them.  `HasName` says what a
module that has its name has found; names are never given back, so it goes on to hold, and it
leaves no choice between two modules of one path that prefer the same name.
-/

namespace HttpAdapter.Catalog

/-- The variants of a name with two numbers differ. -/
theorem numbered_injective (name : String) : Function.Injective (numbered name) := by
  intro i j equal
  have letters := congrArg String.toList equal
  simp only [numbered, String.toList_append, List.append_assoc, List.append_cancel_left_eq,
    String.toList_inj, Nat.toString_eq_repr] at letters
  exact Nat.repr_injective letters

/-- A variant of a name is another name. -/
theorem numbered_ne (name : String) (i : Nat) : numbered name i ≠ name := by
  intro same
  have letters := congrArg (·.toList.length) same
  simp only [numbered, String.toList_append, List.length_append] at letters
  have one : "_".toList.length = 1 := by decide
  omega

/-- A variant of a name ends in a digit. -/
theorem getLast?_numbered (name : String) (i : Nat) :
    ∃ c, (numbered name i).toList.getLast? = some c ∧ c.isDigit = true := by
  have full : Nat.toDigits 10 i ≠ [] := Nat.toDigits_ne_nil
  have last : (Nat.toDigits 10 i).getLast? = some ((Nat.toDigits 10 i).getLast full) :=
    List.getLast?_eq_some_getLast full
  refine ⟨(Nat.toDigits 10 i).getLast full, ?_, ?_⟩
  · rw [numbered, String.toList_append, Nat.toString_eq_repr, Nat.toList_repr,
      List.getLast?_append, last]
    rfl
  · exact Nat.isDigit_of_mem_toDigits (by decide) (by decide) (List.getLast_mem full)

/-- Some other path holds a name. -/
def HeldByOther (names : Table String) (name path : String) : Prop :=
  ∃ holder, names.get? name = some holder ∧ holder ≠ path

theorem isAvailable_iff {c : Catalog} {name path : String} :
    c.isAvailable name path = true ↔
      c.aliases.get? name = none ∨ c.aliases.get? name = some path := by
  unfold isAvailable
  cases c.aliases.get? name with
  | none => simp
  | some holder => simp

theorem isAvailable_eq_false_iff {c : Catalog} {name path : String} :
    c.isAvailable name path = false ↔ HeldByOther c.aliases name path := by
  unfold isAvailable HeldByOther
  cases c.aliases.get? name with
  | none => simp
  | some holder => simp

/-- No more names are held by others than are in use. -/
theorem length_le_of_heldByOther {names : Table String} {path : String} {held : List String}
    (distinct : held.Nodup) (inUse : ∀ name ∈ held, HeldByOther names name path) :
    held.length ≤ names.length := by
  have keys : held ⊆ names.keys := by
    intro name member
    obtain ⟨holder, found, -⟩ := inUse name member
    rw [← Table.get?_isSome_iff, found]
    rfl
  have bound := (distinct.subperm keys).length_le
  rwa [Table.keys, List.length_map] at bound

theorem nodup_map_numbered (name : String) (n : Nat) :
    ((List.range n).map (numbered name)).Nodup :=
  List.Nodup.map (numbered_injective name) List.nodup_range

/-- One more variant than there are names in use cannot all be in use. -/
theorem exists_isAvailable_numbered (c : Catalog) (name path : String) :
    ∃ i < c.aliases.length + 1, c.isAvailable (numbered name i) path = true := by
  by_contra none
  push Not at none
  have inUse : ∀ variant ∈ (List.range (c.aliases.length + 1)).map (numbered name),
      HeldByOther c.aliases variant path := by
    intro variant member
    obtain ⟨i, inRange, rfl⟩ := List.mem_map.mp member
    have taken : c.isAvailable (numbered name i) path = false := by
      simpa using none i (List.mem_range.mp inRange)
    exact isAvailable_eq_false_iff.mp taken
  have bound := length_le_of_heldByOther (nodup_map_numbered name _) inUse
  rw [List.length_map, List.length_range] at bound
  omega

/-- The number found is that of the first variant that is available. -/
theorem firstNumber_spec (c : Catalog) (name path : String) :
    c.isAvailable (numbered name (c.firstNumber name path)) path = true ∧
      ∀ i < c.firstNumber name path, c.isAvailable (numbered name i) path = false := by
  obtain ⟨i, inRange, available⟩ := exists_isAvailable_numbered c name path
  have some : ((List.range (c.aliases.length + 1)).find?
      fun i => c.isAvailable (numbered name i) path).isSome := by
    rw [List.find?_isSome]
    exact ⟨i, List.mem_range.mpr inRange, available⟩
  obtain ⟨first, found⟩ := Option.isSome_iff_exists.mp some
  have number : c.firstNumber name path = first := by simp [firstNumber, found]
  rw [number]
  have search := List.find?_range_eq_some.mp found
  refine ⟨search.1, ?_⟩
  intro j below
  simpa using search.2.2 j below

/-- What a module that has its name has found: it holds the name, and if that is a variant, other
    modules hold its own name and all variants with a smaller number. -/
structure HasName (names : Table String) (m : ImportedModule) : Prop where
  held : names.get? m.boundName = some m.path
  first : ∀ variant, m.variant = some variant →
    HeldByOther names m.name m.path ∧
      ∃ i, variant = numbered m.name i ∧ ∀ j < i, HeldByOther names (numbered m.name j) m.path

theorem HeldByOther.mono {names more : Table String} {name path : String}
    (extension : names.Extends more) (held : HeldByOther names name path) :
    HeldByOther more name path := by
  obtain ⟨holder, found, other⟩ := held
  exact ⟨holder, extension _ _ found, other⟩

theorem HasName.mono {names more : Table String} {m : ImportedModule}
    (extension : names.Extends more) (named : HasName names m) : HasName more m where
  held := extension _ _ named.held
  first := by
    intro variant chosen
    obtain ⟨own, i, number, smaller⟩ := named.first variant chosen
    exact ⟨own.mono extension, i, number, fun j below => (smaller j below).mono extension⟩

/-- Two modules of one path that prefer one name have one name. -/
theorem HasName.boundName_eq {names : Table String} {m n : ImportedModule}
    (left : HasName names m) (right : HasName names n) (path : m.path = n.path)
    (name : m.name = n.name) : m.boundName = n.boundName := by
  have apart {k : ImportedModule} (named : HasName names k) :
      ¬ HeldByOther names k.boundName k.path := by
    rintro ⟨holder, found, other⟩
    rw [named.held, Option.some.injEq] at found
    exact other found.symm
  cases hm : m.variant with
  | none =>
      have own : m.boundName = m.name := by simp [ImportedModule.boundName, hm]
      cases hn : n.variant with
      | none => simp [ImportedModule.boundName, hm, hn, name]
      | some w =>
          obtain ⟨taken, -⟩ := right.first w hn
          rw [← name, ← path, ← own] at taken
          exact absurd taken (apart left)
  | some v =>
      obtain ⟨taken, i, rfl, smaller⟩ := left.first v hm
      have bound : m.boundName = numbered m.name i := by simp [ImportedModule.boundName, hm]
      cases hn : n.variant with
      | none =>
          have own : n.boundName = n.name := by simp [ImportedModule.boundName, hn]
          rw [name, path, ← own] at taken
          exact absurd taken (apart right)
      | some w =>
          obtain ⟨-, j, rfl, smaller'⟩ := right.first w hn
          have bound' : n.boundName = numbered n.name j := by simp [ImportedModule.boundName, hn]
          rcases Nat.lt_trichotomy i j with below | equal | above
          · have taken := smaller' i below
            rw [← name, ← path, ← bound] at taken
            exact absurd taken (apart left)
          · rw [bound, bound', name, equal]
          · have taken := smaller j above
            rw [name, path, ← bound'] at taken
            exact absurd taken (apart right)

theorem moduleOf_path (c : Catalog) (f : FileDecl) : (c.moduleOf f).path = c.modulePath f := by
  unfold moduleOf
  simp only
  split <;> rfl

theorem moduleOf_name (c : Catalog) (f : FileDecl) : (c.moduleOf f).name = f.preferredName := by
  unfold moduleOf
  simp only
  split <;> rfl

/-- The module of a file has its own name or a variant of it. -/
theorem moduleOf_boundName (c : Catalog) (f : FileDecl) :
    (c.moduleOf f).boundName = f.preferredName ∨
      ∃ i, (c.moduleOf f).boundName = numbered f.preferredName i := by
  unfold moduleOf
  simp only
  split
  · exact Or.inl rfl
  · exact Or.inr ⟨_, rfl⟩

/-- The name chosen for the module of a file is available to it. -/
theorem isAvailable_moduleOf (c : Catalog) (f : FileDecl) :
    c.isAvailable (c.moduleOf f).boundName (c.modulePath f) = true := by
  unfold moduleOf
  simp only
  split
  · rename_i available
    exact available
  · exact (firstNumber_spec c f.preferredName (c.modulePath f)).1

/-- Names go on from a catalog to the one in which the module of a file has its name. -/
theorem extends_aliases_withModule (c : Catalog) (f : FileDecl) :
    c.aliases.Extends (c.withModule (c.moduleOf f)).aliases := by
  apply Table.extends_set
  intro old found
  rcases isAvailable_iff.mp (isAvailable_moduleOf c f) with free | held
  · simp [free] at found
  · rw [moduleOf_path, ← Option.some.injEq, ← found, held]

/-- The module of a file has its name once that is given to it. -/
theorem hasName_moduleOf (c : Catalog) (f : FileDecl) :
    HasName (c.withModule (c.moduleOf f)).aliases (c.moduleOf f) where
  held := by simp [withModule, Table.get?_set]
  first := by
    intro variant chosen
    have extension := extends_aliases_withModule c f
    rw [moduleOf_name, moduleOf_path]
    unfold moduleOf at chosen
    simp only at chosen
    split at chosen
    · simp at chosen
    · rename_i taken
      simp only [Option.some.injEq] at chosen
      refine ⟨(isAvailable_eq_false_iff.mp (by simpa using taken)).mono extension, _,
        chosen.symm, ?_⟩
      intro j below
      have smaller := (firstNumber_spec c f.preferredName (c.modulePath f)).2 j below
      exact (isAvailable_eq_false_iff.mp smaller).mono extension

/-- The name of the module of a file holds no dot and is no reserved word. -/
theorem boundName_moduleOf_spec (c : Catalog) (f : FileDecl) :
    '.' ∉ (c.moduleOf f).boundName.toList ∧
      Grammar.isKeyword (c.moduleOf f).boundName.toList = false := by
  obtain ⟨dotless, free⟩ := preferredName_spec f
  rcases moduleOf_boundName c f with own | ⟨i, variant⟩
  · rw [own]
    exact ⟨dotless, free⟩
  · rw [variant, numbered, String.toList_append, String.toList_append]
    constructor
    · have digits : '.' ∉ (toString i).toList := by
        intro dot
        rw [Nat.toString_eq_repr, Nat.toList_repr] at dot
        have digit := Nat.isDigit_of_mem_toDigits (by decide) (by decide) dot
        exact absurd digit (by decide)
      simp only [List.mem_append, not_or]
      exact ⟨⟨dotless, by decide +kernel⟩, digits⟩
    · exact isKeyword_of_isForeign isForeign_underscore (by simp)

end HttpAdapter.Catalog
