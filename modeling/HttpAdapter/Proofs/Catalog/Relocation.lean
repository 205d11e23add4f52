import HttpAdapter.Proofs.Catalog.Parallel

/-!
Modules below another import prefix.  Two of them have one path below the one prefix exactly if they
have one path below the other, so that names are given to them in the same way:
`forall₂_sourcesOf`.
-/

namespace HttpAdapter

open Text

/-- A component of a path is not empty and holds no dot. -/
def IsComponent (part : String) : Prop := part.toList ≠ [] ∧ '.' ∉ part.toList

/-- The components of a module of messages, without those of the prefix. -/
structure IsMessagePath (rest : List String) : Prop where
  components : ∀ part ∈ rest, IsComponent part
  ending : ∃ front last, rest = front ++ [last ++ "_pb2"]

theorem IsMessagePath.ne_nil {rest : List String} (path : IsMessagePath rest) : rest ≠ [] := by
  obtain ⟨front, last, rfl⟩ := path.ending
  exact List.append_ne_nil_of_right_ne_nil front (List.cons_ne_nil _ [])

/-- The paths of one module of messages below two prefixes, given by their components. -/
def SamePlace (ps qs : List String) (a b : String) : Prop :=
  ∃ rest, IsMessagePath rest ∧ a = join '.' (ps ++ rest) ∧ b = join '.' (qs ++ rest)

/-- One module below two prefixes, with the same name. -/
structure ImportedModule.Relocated (ps qs : List String) (m n : ImportedModule) : Prop where
  path : SamePlace ps qs m.path n.path
  name : m.name = n.name
  variant : m.variant = n.variant

/-- One file, whose module stands below two prefixes. -/
structure SourceFile.Relocated (ps qs : List String) (s t : SourceFile) : Prop where
  decl : s.decl = t.decl
  module : s.module.Relocated ps qs t.module

section Places

variable {ps qs : List String}

theorem ImportedModule.Relocated.boundName {m n : ImportedModule} (moved : m.Relocated ps qs n) :
    m.boundName = n.boundName := by
  rw [ImportedModule.boundName, ImportedModule.boundName, moved.name, moved.variant]

theorem SourceFile.Relocated.alike {s t : SourceFile} (moved : s.Relocated ps qs t) :
    s.Alike t := by
  refine ⟨?_, ?_, ?_, ?_, ?_⟩
  · exact congrArg (·.name) moved.decl
  · exact congrArg (·.packageName) moved.decl
  · exact congrArg (·.isProto2) moved.decl
  · exact congrArg (·.messages) moved.decl
  · exact congrArg (·.enums) moved.decl

variable (left : ∀ part ∈ ps, IsComponent part) (right : ∀ part ∈ qs, IsComponent part)

theorem join_append_inj (parts : ∀ part ∈ ps, IsComponent part) {rest others : List String}
    (path : IsMessagePath rest) (path' : IsMessagePath others) :
    join '.' (ps ++ rest) = join '.' (ps ++ others) ↔ rest = others := by
  have dotless {others : List String} (path : IsMessagePath others) :
      ∀ part ∈ ps ++ others, '.' ∉ part.toList := by
    rw [List.forall_mem_append]
    exact ⟨fun part member => (parts part member).2,
      fun part member => (path.components part member).2⟩
  rw [join_inj (List.append_ne_nil_of_right_ne_nil ps path.ne_nil)
    (List.append_ne_nil_of_right_ne_nil ps path'.ne_nil) (dotless path) (dotless path'),
    List.append_cancel_left_eq]

/-- A path of components begins with a character that is no dot. -/
theorem exists_start_join {parts : List String} (full : parts ≠ [])
    (components : ∀ part ∈ parts, IsComponent part) :
    ∃ c cs, (join '.' parts).toList = c :: cs ∧ c ≠ '.' := by
  obtain ⟨first, others, rfl⟩ := List.exists_cons_of_ne_nil full
  obtain ⟨some, dotless⟩ := components first List.mem_cons_self
  obtain ⟨c, cs, letters⟩ := List.exists_cons_of_ne_nil some
  refine ⟨c, cs ++ others.flatMap ('.' :: ·.toList), ?_, ?_⟩
  · rw [toList_join_cons, letters, List.cons_append]
  · rintro rfl
    exact dotless (letters ▸ List.mem_cons_self)

include left right

/-- Two places are one below the one prefix exactly if they are below the other. -/
theorem SamePlace.eq_iff {a b a' b' : String} (first : SamePlace ps qs a b)
    (second : SamePlace ps qs a' b') : a = a' ↔ b = b' := by
  obtain ⟨rest, path, rfl, rfl⟩ := first
  obtain ⟨others, path', rfl, rfl⟩ := second
  rw [join_append_inj left path path', join_append_inj right path path']

theorem SamePlace.exists_start {a b : String} (place : SamePlace ps qs a b) :
    (∃ c cs, a.toList = c :: cs ∧ c ≠ '.') ∧ ∃ c cs, b.toList = c :: cs ∧ c ≠ '.' := by
  obtain ⟨rest, path, rfl, rfl⟩ := place
  exact ⟨exists_start_join (List.append_ne_nil_of_right_ne_nil ps path.ne_nil)
      (List.forall_mem_append.mpr ⟨left, path.components⟩),
    exists_start_join (List.append_ne_nil_of_right_ne_nil qs path.ne_nil)
      (List.forall_mem_append.mpr ⟨right, path.components⟩)⟩

theorem SamePlace.ne_empty {a b : String} (place : SamePlace ps qs a b) : a ≠ "" ∧ b ≠ "" := by
  obtain ⟨⟨c, cs, letters, -⟩, d, ds, letters', -⟩ := place.exists_start left right
  constructor
  · rintro rfl
    cases letters
  · rintro rfl
    cases letters'

/-- The first module of each path is the same below either prefix. -/
theorem forall₂_distinctModules {ms ns : List ImportedModule}
    (moved : List.Forall₂ (ImportedModule.Relocated ps qs) ms ns) :
    List.Forall₂ (ImportedModule.Relocated ps qs) (distinctModules ms) (distinctModules ns) := by
  refine List.rel_foldl ?_ .nil moved
  intro kept kept' row m n same
  have known : kept.any (·.path == m.path) = kept'.any (·.path == n.path) := by
    induction row with
    | nil => rfl
    | @cons k l _ _ first _ ih =>
        have here : (k.path == m.path) = (l.path == n.path) := by
          rw [Bool.eq_iff_iff, beq_iff_eq, beq_iff_eq]
          exact first.path.eq_iff left right same.path
        rw [List.any_cons, List.any_cons, ih, here]
  dsimp only
  rw [known]
  split
  · exact row
  · exact List.rel_append row (.cons same .nil)

end Places

namespace Catalog

/-- The holders of one name in two catalogs: a module at one place below two prefixes, or the empty
    path in both. -/
def HoldsSame (ps qs : List String) (a b : String) : Prop := (a = "" ∧ b = "") ∨ SamePlace ps qs a b

/-- Two catalogs have given names to the modules of the same places, below two prefixes. -/
structure Relocated (ps qs : List String) (c d : Catalog) : Prop where
  importPrefix : pathComponents c.importPrefix = ps
  importPrefix' : pathComponents d.importPrefix = qs
  packageMap : c.packageMap = d.packageMap
  aliases : Table.Parallel (HoldsSame ps qs) c.aliases d.aliases

namespace Relocated

variable {ps qs : List String} {c d : Catalog} (moved : c.Relocated ps qs d)

include moved

theorem left : ∀ part ∈ ps, IsComponent part := by
  rw [← moved.importPrefix]
  exact fun part member => mem_pathComponents member

theorem right : ∀ part ∈ qs, IsComponent part := by
  rw [← moved.importPrefix']
  exact fun part member => mem_pathComponents member

theorem samePlace_modulePath (f : FileDecl) :
    SamePlace ps qs (c.modulePath f) (d.modulePath f) := by
  obtain ⟨front, last, ending⟩ := pathComponents_messageModule f.name
  let directory :=
    (c.packageMap.get? f.name).getD (String.ofList (FilePath.directory f.name.toList))
  refine ⟨pathComponents directory ++ pathComponents (messageModule f.name), ⟨?_, ?_⟩, ?_, ?_⟩
  · rw [List.forall_mem_append]
    exact ⟨fun part member => mem_pathComponents member,
      fun part member => mem_pathComponents member⟩
  · exact ⟨pathComponents directory ++ front, last, by rw [ending, List.append_assoc]⟩
  · simp only [Catalog.modulePath, FileDecl.modulePath, dottedPath, List.flatMap_cons,
      List.flatMap_nil, List.append_nil, moved.importPrefix, directory]
  · simp only [Catalog.modulePath, FileDecl.modulePath, dottedPath, List.flatMap_cons,
      List.flatMap_nil, List.append_nil, moved.importPrefix', ← moved.packageMap, directory]

theorem isAvailable_eq {a b : String} (place : SamePlace ps qs a b) (name : String) :
    c.isAvailable name a = d.isAvailable name b := by
  have holders := moved.aliases.rel_get? name
  rw [isAvailable, isAvailable]
  generalize c.aliases.get? name = x at holders
  generalize d.aliases.get? name = y at holders
  cases holders with
  | none => rfl
  | @some x y held =>
      rw [Option.all_some, Option.all_some, Bool.eq_iff_iff, beq_iff_eq, beq_iff_eq]
      rcases held with ⟨rfl, rfl⟩ | held
      · obtain ⟨full, full'⟩ := place.ne_empty moved.left moved.right
        exact ⟨fun empty => absurd empty.symm full, fun empty => absurd empty.symm full'⟩
      · exact held.eq_iff moved.left moved.right place

theorem firstNumber_eq {a b : String} (place : SamePlace ps qs a b) (name : String) :
    c.firstNumber name a = d.firstNumber name b := by
  have available : (fun i => c.isAvailable (numbered name i) a) =
      fun i => d.isAvailable (numbered name i) b :=
    funext fun i => moved.isAvailable_eq place (numbered name i)
  rw [firstNumber, firstNumber, available, moved.aliases.length_eq]

/-- The module of a file has the same name below either prefix. -/
theorem moduleOf (f : FileDecl) : (c.moduleOf f).Relocated ps qs (d.moduleOf f) := by
  have place := moved.samePlace_modulePath f
  refine ⟨?_, ?_, ?_⟩
  · rw [moduleOf_path, moduleOf_path]
    exact place
  · rw [moduleOf_name, moduleOf_name]
  · simp only [Catalog.moduleOf, moved.isAvailable_eq place, moved.firstNumber_eq place]
    split
    · rfl
    · rfl

theorem withModule {m n : ImportedModule} (module : m.Relocated ps qs n) :
    (c.withModule m).Relocated ps qs (d.withModule n) where
  importPrefix := moved.importPrefix
  importPrefix' := moved.importPrefix'
  packageMap := moved.packageMap
  aliases := by
    simp only [Catalog.withModule, module.boundName]
    exact moved.aliases.set _ (Or.inr module.path)

/-- Files in a row get modules of the same names, each at one place below either prefix. -/
theorem forall₂_sourcesOf (fs : List FileDecl) :
    List.Forall₂ (SourceFile.Relocated ps qs) (c.sourcesOf fs) (d.sourcesOf fs) := by
  induction fs generalizing c d with
  | nil => exact .nil
  | cons f fs ih =>
      rw [sourcesOf, sourcesOf]
      exact .cons ⟨rfl, moved.moduleOf f⟩ (ih (moved.withModule (moved.moduleOf f)))

end Relocated

theorem relocated_empty (importPrefix importPrefix' : String) (packageMap : Table String) :
    (empty importPrefix packageMap).Relocated (pathComponents importPrefix)
      (pathComponents importPrefix') (empty importPrefix' packageMap) where
  importPrefix := rfl
  importPrefix' := rfl
  packageMap := rfl
  aliases := by
    rw [Table.Parallel, empty, empty, List.forall₂_map_left_iff, List.forall₂_map_right_iff]
    exact List.forall₂_same.mpr fun name _ => ⟨rfl, Or.inl ⟨rfl, rfl⟩⟩

end Catalog

end HttpAdapter
