import HttpAdapter.Proofs.CompiledModule

/-!
Paths with dots between their components.  Whatever its parts are, a joined path is in normal form,
and the paths in normal form are those that joining leaves alone: `dottedPath_eq_self_iff`.  So
parts may be joined in groups first, and a path behind a prefix can be told from every other one,
`dottedPath_normalises`.
-/

namespace HttpAdapter

open Text

/-- A component of a path: it is not empty and holds nothing that separates components. -/
structure IsPathComponent (component : String) : Prop where
  full : component ≠ ""
  dotless : '.' ∉ component.toList
  slashless : '/' ∉ component.toList

/-- A path in normal form: only dots separate its components, and none of these is empty.  The
    empty path has no components. -/
structure IsNormalPath (path : String) : Prop where
  slashless : '/' ∉ path.toList
  full : path = "" ∨ "" ∉ split '.' path
  start : path.toList.head? ≠ some '.'
  ending : path.toList.getLast? ≠ some '.'

section Components

theorem replace_of_not_mem {old new : Char} {s : String} (different : old ≠ new)
    (absent : old ∉ s.toList) : replace old new s = s := by
  rw [← String.toList_inj, toList_replace]
  exact (map_swap_eq_self_iff different).mpr absent

theorem isPathComponent_of_mem {path component : String}
    (member : component ∈ pathComponents path) : IsPathComponent component := by
  obtain ⟨full, dotless⟩ := mem_pathComponents member
  refine ⟨fun empty => full (by rw [empty]; rfl), dotless, ?_⟩
  intro slash
  obtain ⟨inParts, -⟩ := List.mem_filter.mp member
  obtain ⟨letters, inLetters, rfl⟩ := List.mem_map.mp inParts
  rw [String.toList_ofList] at slash
  have inPath : '/' ∈ (replace '/' '.' path).toList := by
    rw [← @List.intercalate_splitOn _ (replace '/' '.' path).toList _ _ '.',
      mem_intercalate (by decide)]
    exact ⟨letters, inLetters, slash⟩
  exact not_mem_replace_old (by decide) inPath

theorem forall_isPathComponent (parts : List String) :
    ∀ component ∈ parts.flatMap pathComponents, IsPathComponent component := by
  intro component member
  obtain ⟨part, -, inPart⟩ := List.mem_flatMap.mp member
  exact isPathComponent_of_mem inPart

theorem slash_not_mem_join {components : List String}
    (each : ∀ component ∈ components, IsPathComponent component) :
    '/' ∉ (join '.' components).toList := by
  rw [toList_join, mem_intercalate (by decide)]
  rintro ⟨letters, member, slash⟩
  obtain ⟨component, inList, rfl⟩ := List.mem_map.mp member
  exact (each component inList).slashless slash

theorem split_join_components {components : List String} (some : components ≠ [])
    (each : ∀ component ∈ components, IsPathComponent component) :
    split '.' (join '.' components) = components :=
  split_join some fun component member => (each component member).dotless

/-- Components with dots between them are the components of the path they make. -/
theorem pathComponents_join_dot {components : List String}
    (each : ∀ component ∈ components, IsPathComponent component) :
    pathComponents (join '.' components) = components := by
  rw [pathComponents, replace_of_not_mem (by decide) (slash_not_mem_join each)]
  cases components with
  | nil => decide
  | cons first others =>
      rw [split_join_components (List.cons_ne_nil first others) each, List.filter_eq_self]
      intro component member
      simpa using (each component member).full

/-- Slashes between the components do as well. -/
theorem pathComponents_join_slash {components : List String}
    (each : ∀ component ∈ components, IsPathComponent component) :
    pathComponents (join '/' components) = components := by
  have slashless : ∀ letters ∈ components.map String.toList, '/' ∉ letters := by
    rw [List.forall_mem_map]
    exact fun component member => (each component member).slashless
  have dots : replace '/' '.' (join '/' components) = join '.' components := by
    rw [← String.toList_inj, toList_replace, toList_join, toList_join]
    exact map_swap_intercalate slashless
  have whole := pathComponents_join_dot each
  rw [pathComponents, replace_of_not_mem (by decide) (slash_not_mem_join each)] at whole
  rwa [pathComponents, dots]

theorem pathComponents_dottedPath (parts : List String) :
    pathComponents (dottedPath parts) = parts.flatMap pathComponents :=
  pathComponents_join_dot (forall_isPathComponent parts)

theorem split_dottedPath {parts : List String} (some : parts.flatMap pathComponents ≠ []) :
    split '.' (dottedPath parts) = parts.flatMap pathComponents :=
  split_join_components some (forall_isPathComponent parts)

theorem dottedPath_ne_empty {parts : List String} (some : parts.flatMap pathComponents ≠ []) :
    dottedPath parts ≠ "" := by
  intro empty
  apply some
  rw [← pathComponents_dottedPath, empty]
  decide

/-- Two joined paths are equal exactly if their components are. -/
theorem dottedPath_inj {parts others : List String} :
    dottedPath parts = dottedPath others ↔
      parts.flatMap pathComponents = others.flatMap pathComponents := by
  constructor
  · intro same
    rw [← pathComponents_dottedPath, same, pathComponents_dottedPath]
  · intro same
    rw [dottedPath, dottedPath, same]

end Components

section NormalForm

/-- A path without empty components neither begins nor ends with a dot. -/
theorem ends_of_not_mem_split {path : String} (full : "" ∉ split '.' path) :
    path.toList.head? ≠ some '.' ∧ path.toList.getLast? ≠ some '.' := by
  have none : [] ∉ path.toList.splitOn '.' := by
    intro member
    exact full (List.mem_map.mpr ⟨[], member, rfl⟩)
  constructor
  · intro first
    obtain ⟨letters, equal⟩ := List.head?_eq_some_iff.mp first
    rw [equal] at none
    exact none (by simp)
  · intro last
    obtain ⟨letters, equal⟩ := List.getLast?_eq_some_iff.mp last
    rw [equal, List.splitOn_append_cons_self] at none
    exact none (by simp)

theorem isNormalPath_empty : IsNormalPath "" :=
  ⟨by decide, Or.inl rfl, by decide, by decide⟩

theorem isNormalPath_dottedPath (parts : List String) : IsNormalPath (dottedPath parts) := by
  have each := forall_isPathComponent parts
  rw [dottedPath]
  generalize parts.flatMap pathComponents = components at each
  cases components with
  | nil => exact isNormalPath_empty
  | cons first others =>
      have full : "" ∉ split '.' (join '.' (first :: others)) := by
        rw [split_join_components (List.cons_ne_nil first others) each]
        intro member
        exact (each "" member).full rfl
      obtain ⟨start, ending⟩ := ends_of_not_mem_split full
      exact ⟨slash_not_mem_join each, Or.inr full, start, ending⟩

/-- Joining leaves a path alone exactly if it is in normal form. -/
theorem dottedPath_eq_self_iff {path : String} : dottedPath [path] = path ↔ IsNormalPath path := by
  constructor
  · intro same
    rw [← same]
    exact isNormalPath_dottedPath [path]
  · intro normal
    rcases normal.full with rfl | full
    · decide
    · have kept : (split '.' path).filter (!·.isEmpty) = split '.' path := by
        rw [List.filter_eq_self]
        intro part member
        have some : part ≠ "" := fun empty => full (empty ▸ member)
        simpa using some
      rw [dottedPath, List.flatMap_singleton, pathComponents,
        replace_of_not_mem (by decide) normal.slashless, kept, join_split]

end NormalForm

/-- The module of a file has a path whose last component has the ending of such modules. -/
theorem exists_modulePath_last (c : Catalog) (f : FileDecl) :
    c.modulePath f ≠ "" ∧
      ∃ last, (split '.' (c.modulePath f)).getLast? = some (last ++ "_pb2") := by
  obtain ⟨front, last, ending⟩ := pathComponents_messageModule f.name
  rw [Catalog.modulePath, FileDecl.modulePath]
  generalize Option.getD _ _ = directory
  have components : [c.importPrefix, directory, messageModule f.name].flatMap pathComponents =
      (pathComponents c.importPrefix ++ pathComponents directory ++ front) ++ [last ++ "_pb2"] := by
    simp [ending]
  have some : [c.importPrefix, directory, messageModule f.name].flatMap pathComponents ≠ [] := by
    simp [components]
  refine ⟨dottedPath_ne_empty some, last, ?_⟩
  rw [split_dottedPath some, components, List.getLast?_concat]

/-- Joining brings paths into normal form.  Parts may be joined in groups first, a joined path is
    in normal form and stays as it is when it is joined again, and behind one prefix different
    paths in normal form stay different.  So the module of a file never has the empty path, and the
    last component of its path has the ending of such modules. -/
theorem dottedPath_normalises :
    (∀ xs ys : List String, dottedPath (xs ++ ys) = dottedPath [dottedPath xs, dottedPath ys]) ∧
    (∀ parts : List String, IsNormalPath (dottedPath parts) ∧
      dottedPath [dottedPath parts] = dottedPath parts) ∧
    (∀ front path other : String, IsNormalPath path → IsNormalPath other →
      (dottedPath [front, path] = dottedPath [front, other] ↔ path = other)) ∧
    ∀ (c : Catalog) (f : FileDecl), c.modulePath f ≠ "" ∧
      ∃ last, (split '.' (c.modulePath f)).getLast? = some (last ++ "_pb2") := by
  refine ⟨?_, ?_, ?_, exists_modulePath_last⟩
  · intro xs ys
    rw [dottedPath_inj]
    simp [pathComponents_dottedPath]
  · intro parts
    have normal := isNormalPath_dottedPath parts
    exact ⟨normal, dottedPath_eq_self_iff.mpr normal⟩
  · intro front path other normal normal'
    rw [dottedPath_inj]
    simp only [List.flatMap_cons, List.flatMap_nil, List.append_nil, List.append_cancel_left_eq]
    constructor
    · intro same
      have alone : dottedPath [path] = dottedPath [other] := by
        rw [dottedPath_inj]
        simpa using same
      rwa [dottedPath_eq_self_iff.mpr normal, dottedPath_eq_self_iff.mpr normal'] at alone
    · intro same
      rw [same]

/-- A path of two components and a path of one, behind a prefix with a slash at each end. -/
theorem dottedPath_normalises_behind_prefix :
    IsNormalPath "api.v1" ∧ IsNormalPath "api_v1" ∧
      dottedPath ["/gen//py/", "api.v1"] = "gen.py.api.v1" ∧
      dottedPath ["/gen//py/", "api.v1"] ≠ dottedPath ["/gen//py/", "api_v1"] := by
  have first : IsNormalPath "api.v1" :=
    ⟨by decide, Or.inr (by decide +kernel), by decide, by decide⟩
  have second : IsNormalPath "api_v1" :=
    ⟨by decide, Or.inr (by decide +kernel), by decide, by decide⟩
  refine ⟨first, second, by decide +kernel, ?_⟩
  intro same
  have equal := (dottedPath_normalises.2.2.1 "/gen//py/" "api.v1" "api_v1" first second).mp same
  exact absurd equal (by decide)

end HttpAdapter
