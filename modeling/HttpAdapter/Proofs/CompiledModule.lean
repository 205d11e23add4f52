import HttpAdapter.Catalog.Basic
import HttpAdapter.Proofs.ModulePath
import Mathlib.Data.List.Induction

/-!
The module of message classes that the compiler of interface files makes of a file, and whether
the catalog imports that one.  The compiler rewrites the whole path; the catalog rewrites hyphens
in the last segment only and drops what is empty between dots: `modulePath_eq_compiledModule_iff`.
-/

namespace HttpAdapter

open Text

/-- A file name without the extension `.proto`. -/
def withoutExtension (file : String) : String :=
  String.ofList (file.toList.take (file.toList.length - 6))

/-- The module that the compiler makes of a file: the whole path with underscores for hyphens and
    dots for slashes. -/
def compiledModule (file : String) : String :=
  replace '/' '.' (replace '-' '_' (withoutExtension file)) ++ "_pb2"

/-- A file with the extension `.proto` below directories.  No segment is empty or holds a slash,
    and the last one does not begin with a dot. -/
structure InterfaceFile (file : String) (directories : List String) (base : String) : Prop where
  name : file = join '/' (directories ++ [base ++ ".proto"])
  proper : ∀ d ∈ directories, d ≠ "" ∧ '/' ∉ d.toList
  slashless : '/' ∉ base.toList
  start : ∃ c cs, base.toList = c :: cs ∧ c ≠ '.'

/-- One character in place of another. -/
def swap (old new c : Char) : Char := if c = old then new else c

theorem swap_eq_iff {old new c d : Char} (notOld : d ≠ old) (notNew : d ≠ new) :
    swap old new c = d ↔ c = d := by
  unfold swap
  split
  · rename_i equal
    rw [equal]
    exact ⟨fun same => absurd same.symm notNew, fun same => absurd same.symm notOld⟩
  · exact Iff.rfl

theorem mem_map_swap_iff {old new d : Char} (notOld : d ≠ old) (notNew : d ≠ new)
    {cs : List Char} : d ∈ cs.map (swap old new) ↔ d ∈ cs := by
  simp [swap_eq_iff notOld notNew]

theorem not_mem_map_swap {old new : Char} (different : old ≠ new) (cs : List Char) :
    old ∉ cs.map (swap old new) := by
  intro member
  obtain ⟨c, -, image⟩ := List.mem_map.mp member
  unfold swap at image
  split at image
  · exact different image.symm
  · rename_i other
    exact other image

theorem map_swap_eq_self_iff {old new : Char} (different : old ≠ new) {cs : List Char} :
    cs.map (swap old new) = cs ↔ old ∉ cs := by
  constructor
  · intro same
    rw [← same]
    exact not_mem_map_swap different cs
  · intro absent
    have each : ∀ c ∈ cs, swap old new c = id c := by
      intro c member
      have other : c ≠ old := fun equal => absent (equal ▸ member)
      exact if_neg other
    rw [List.map_congr_left each, List.map_id]

/-- The segments of a path that hold no slash, joined by dots. -/
theorem map_swap_intercalate {parts : List (List Char)} (noSlash : ∀ p ∈ parts, '/' ∉ p) :
    (['/'].intercalate parts).map (swap '/' '.') = ['.'].intercalate parts := by
  have each : ∀ p ∈ parts, p.map (swap '/' '.') = id p := by
    intro p member
    exact (map_swap_eq_self_iff (by decide)).mpr (noSlash p member)
  rw [map_intercalate, List.map_congr_left each, List.map_id]
  rfl

section Segments

variable {directories : List (List Char)} {last : List Char}

/-- The directory of a path is all but its last segment. -/
theorem directory_intercalate (proper : ∀ d ∈ directories, d ≠ [] ∧ '/' ∉ d)
    (noSlash : '/' ∉ last) :
    FilePath.directory (['/'].intercalate (directories ++ [last])) =
      ['/'].intercalate directories := by
  rw [intercalate_append directories (List.cons_ne_nil last [])]
  cases directories using List.reverseRecOn with
  | nil =>
      have whole : cutLast '/' last = none := cutLast_of_not_mem noSlash
      simp [FilePath.directory, List.intercalate, whole]
  | append_singleton front d =>
      obtain ⟨full, slashless⟩ := proper d (by simp)
      obtain ⟨start, c, rfl⟩ : ∃ start c, d = start ++ [c] :=
        ⟨d.dropLast, d.getLast full, (List.dropLast_append_getLast full).symm⟩
      have other : c ≠ '/' := fun equal => slashless (by simp [equal])
      rw [intercalate_append front (List.cons_ne_nil _ [])]
      have text : (front ++ [start ++ [c]]).flatMap (· ++ ['/']) ++ ['/'].intercalate [last] =
          (front.flatMap (· ++ ['/']) ++ (start ++ [c])) ++ '/' :: last := by
        simp [List.intercalate]
      rw [text, FilePath.directory, cutLast_append_cons _ noSlash]
      simp [List.intercalate, other]

theorem lastSegment_intercalate (noSlash : '/' ∉ last) :
    FilePath.lastSegment (['/'].intercalate (directories ++ [last])) = last := by
  rw [intercalate_append directories (List.cons_ne_nil last [])]
  cases directories using List.reverseRecOn with
  | nil =>
      have whole : cutLast '/' last = none := cutLast_of_not_mem noSlash
      simp [FilePath.lastSegment, List.intercalate, whole]
  | append_singleton front d =>
      have text : (front ++ [d]).flatMap (· ++ ['/']) ++ ['/'].intercalate [last] =
          (front.flatMap (· ++ ['/']) ++ d) ++ '/' :: last := by
        simp [List.intercalate]
      rw [text, FilePath.lastSegment, cutLast_append_cons _ noSlash]

end Segments

/-- The components of a path, by their letters. -/
theorem map_toList_pathComponents (path : String) :
    (pathComponents path).map String.toList =
      ((path.toList.map (swap '/' '.')).splitOn '.').filter (!·.isEmpty) := by
  rw [pathComponents, split, toList_replace]
  change List.map _ (List.filter _ (List.map _ ((path.toList.map (swap '/' '.')).splitOn '.'))) = _
  generalize (path.toList.map (swap '/' '.')).splitOn '.' = parts
  induction parts with
  | nil => rfl
  | cons part parts ih => cases part <;> simp [ih]

namespace InterfaceFile

/-- The path of a file with dots for slashes, and with underscores for hyphens in its last
    segment. -/
def dottedName (directories : List String) (base : String) : List Char :=
  ['.'].intercalate
    (directories.map String.toList ++ [base.toList.map (swap '-' '_') ++ ['_', 'p', 'b', '2']])

variable {file : String} {directories : List String} {base : String}

theorem toList_name (named : InterfaceFile file directories base) :
    file.toList = ['/'].intercalate
      (directories.map String.toList ++ [base.toList ++ ['.', 'p', 'r', 'o', 't', 'o']]) := by
  rw [named.name, toList_join]
  simp

theorem proper_toList (named : InterfaceFile file directories base) :
    ∀ d ∈ directories.map String.toList, d ≠ [] ∧ '/' ∉ d := by
  intro letters member
  obtain ⟨d, inList, rfl⟩ := List.mem_map.mp member
  obtain ⟨full, slashless⟩ := named.proper d inList
  exact ⟨fun empty => full (String.toList_inj.mp (by simpa using empty)), slashless⟩

theorem not_mem_last (named : InterfaceFile file directories base) :
    '/' ∉ base.toList ++ ['.', 'p', 'r', 'o', 't', 'o'] := by
  rw [List.mem_append, not_or]
  exact ⟨named.slashless, by decide⟩

theorem fileStem_eq (named : InterfaceFile file directories base) : fileStem file = base := by
  obtain ⟨c, cs, letters, noDot⟩ := named.start
  rw [fileStem, named.toList_name, lastSegment_intercalate named.not_mem_last, FilePath.stem,
    cutLast_append_cons base.toList (by decide)]
  have begins : base.toList.all (· == '.') = false := by simp [letters, noDot]
  simp [begins]

theorem toList_messageModule (named : InterfaceFile file directories base) :
    (messageModule file).toList = base.toList.map (swap '-' '_') ++ ['_', 'p', 'b', '2'] := by
  rw [messageModule, moduleStem, named.fileStem_eq, String.toList_append, toList_replace]
  rfl

/-- The module path is made of the components of the prefix and those of the path that are not
    empty. -/
theorem toList_modulePath {f : FileDecl} (named : InterfaceFile f.name directories base)
    (importPrefix : String) :
    (f.modulePath importPrefix none).toList = ['.'].intercalate
      ((pathComponents importPrefix).map String.toList ++
        ((dottedName directories base).splitOn '.').filter (!·.isEmpty)) := by
  have slashless := named.proper_toList
  have directory : (pathComponents
      (String.ofList (FilePath.directory f.name.toList))).map String.toList =
      ((directories.map String.toList).flatMap (List.splitOn '.')).filter (!·.isEmpty) := by
    rw [map_toList_pathComponents, String.toList_ofList, named.toList_name,
      directory_intercalate slashless named.not_mem_last,
      map_swap_intercalate fun d member => (slashless d member).2]
    cases directories with
    | nil => rfl
    | cons d directories => rw [splitOn_intercalate_eq_flatMap (by simp)]
  have last : (pathComponents (messageModule f.name)).map String.toList =
      ((messageModule f.name).toList.splitOn '.').filter (!·.isEmpty) := by
    have noSlash : '/' ∉ (messageModule f.name).toList := by
      rw [named.toList_messageModule, List.mem_append, not_or,
        mem_map_swap_iff (by decide) (by decide)]
      exact ⟨named.slashless, by decide⟩
    rw [map_toList_pathComponents, (map_swap_eq_self_iff (by decide)).mpr noSlash]
  rw [FileDecl.modulePath, dottedPath, toList_join, List.flatMap_cons, List.flatMap_cons,
    List.flatMap_cons, List.flatMap_nil, List.append_nil, List.map_append, List.map_append,
    Option.getD_none, directory, last, ← List.filter_append, named.toList_messageModule,
    dottedName, splitOn_intercalate_eq_flatMap (by simp)]
  simp

/-- The compiler makes of a file the module with underscores in all segments. -/
theorem toList_compiledModule (named : InterfaceFile file directories base) :
    (compiledModule file).toList = (dottedName directories base).map (swap '-' '_') := by
  have text : file.toList =
      (join '/' (directories ++ [base])).toList ++ ['.', 'p', 'r', 'o', 't', 'o'] := by
    rw [named.toList_name, toList_join, List.map_append, List.map_cons, List.map_nil,
      intercalate_append _ (List.cons_ne_nil _ []), intercalate_append _ (List.cons_ne_nil _ [])]
    simp [List.intercalate]
  have stem : withoutExtension file = join '/' (directories ++ [base]) := by
    rw [withoutExtension, text, ← String.toList_inj]
    simp
  have noSlash : ∀ p ∈ (directories ++ [base]).map String.toList, '/' ∉ p := by
    intro p member
    rw [List.map_append, List.mem_append] at member
    rcases member with inside | last
    · exact (named.proper_toList p inside).2
    · rw [List.mem_singleton.mp last]
      exact named.slashless
  have swapped : ∀ p ∈ ((directories ++ [base]).map String.toList).map (·.map (swap '-' '_')),
      '/' ∉ p := by
    intro p member
    obtain ⟨q, inList, rfl⟩ := List.mem_map.mp member
    rw [mem_map_swap_iff (by decide) (by decide)]
    exact noSlash q inList
  have twice (cs : List Char) : (cs.map (swap '-' '_')).map (swap '-' '_') =
      cs.map (swap '-' '_') :=
    (map_swap_eq_self_iff (by decide)).mpr (not_mem_map_swap (by decide) cs)
  rw [compiledModule, stem, String.toList_append, toList_replace, toList_replace, toList_join]
  change ((['/'].intercalate _).map (swap '-' '_')).map (swap '/' '.') ++ _ = _
  rw [map_intercalate]
  change (['/'].intercalate _).map (swap '/' '.') ++ _ = _
  rw [map_swap_intercalate swapped, dottedName, map_intercalate, List.map_append, List.map_append,
    List.map_append, intercalate_append _ (by simp), intercalate_append _ (by simp)]
  simp only [List.map_cons, List.map_nil, List.map_append, twice]
  rw [show swap '-' '_' '.' = '.' from rfl]
  simp [List.intercalate]
  decide

/-- The path has a component that is not empty: its last one. -/
theorem filter_splitOn_dottedName_ne_nil (directories : List String) (base : String) :
    ((dottedName directories base).splitOn '.').filter (!·.isEmpty) ≠ [] := by
  rw [dottedName, intercalate_append _ (List.cons_ne_nil _ []),
    show ['.'].intercalate [base.toList.map (swap '-' '_') ++ ['_', 'p', 'b', '2']] =
      base.toList.map (swap '-' '_') ++ ['_', 'p', 'b', '2'] by simp [List.intercalate],
    ← List.append_assoc]
  have dotless : '.' ∉ ['_', 'p', 'b', '2'] := by decide
  obtain ⟨front, last, parts⟩ := splitOn_append_of_not_mem _ dotless
  rw [parts]
  simp

/-- No directory holds a hyphen exactly if the path with dots does not. -/
theorem not_mem_dottedName_iff (base : String) :
    '-' ∉ dottedName directories base ↔ ∀ d ∈ directories, '-' ∉ d.toList := by
  have last : '-' ∉ base.toList.map (swap '-' '_') ++ ['_', 'p', 'b', '2'] := by
    rw [List.mem_append, not_or]
    exact ⟨not_mem_map_swap (by decide) _, by decide⟩
  rw [dottedName, mem_intercalate (by decide)]
  simp only [List.mem_append, List.mem_map, List.mem_singleton, not_exists, not_and]
  constructor
  · intro absent d member
    exact absent d.toList (Or.inl ⟨d, member, rfl⟩)
  · rintro absent part (⟨d, member, rfl⟩ | rfl)
    · exact absent d member
    · exact last

end InterfaceFile

/-- Behind any components, the full components of a text are the text with underscores for
    hyphens, if and only if it holds no hyphen and no component of it is empty. -/
theorem intercalate_filter_splitOn_eq_iff {text : List Char} (front : List (List Char))
    (some : (text.splitOn '.').filter (!·.isEmpty) ≠ []) :
    ['.'].intercalate (front ++ (text.splitOn '.').filter (!·.isEmpty)) =
        ['.'].intercalate (front ++ [text.map (swap '-' '_')]) ↔
      '-' ∉ text ∧ [] ∉ text.splitOn '.' := by
  have hyphen : '-' ≠ '_' := by decide
  have single : ['.'].intercalate [text.map (swap '-' '_')] = text.map (swap '-' '_') := by
    simp [List.intercalate]
  rw [intercalate_append front some, intercalate_append front (List.cons_ne_nil _ []),
    List.append_cancel_left_eq, single, ← map_swap_eq_self_iff hyphen]
  have all (full : [] ∉ text.splitOn '.') :
      (text.splitOn '.').filter (!·.isEmpty) = text.splitOn '.' := by
    rw [List.filter_eq_self]
    intro part member
    cases part with
    | nil => exact absurd member full
    | cons c cs => rfl
  constructor
  · intro same
    have full : [] ∉ text.splitOn '.' := by
      rw [← intercalate_filter_eq_iff some, same, List.length_map, List.intercalate_splitOn]
    rw [all full, List.intercalate_splitOn] at same
    exact ⟨same.symm, full⟩
  · rintro ⟨same, full⟩
    rw [all full, List.intercalate_splitOn, same]

/-- A file that the settings put into no package is imported as the module that the compiler makes
    of it, below the components of the prefix, if and only if no directory of it holds a hyphen
    and no component of that module is empty. -/
theorem modulePath_eq_compiledModule_iff {c : Catalog} {f : FileDecl} {directories : List String}
    {base : String} (named : InterfaceFile f.name directories base)
    (unmapped : c.packageMap.get? f.name = none) :
    (c.modulePath f =
        join '.' (pathComponents c.importPrefix ++ [compiledModule f.name]) ↔
      (∀ d ∈ directories, '-' ∉ d.toList) ∧ "" ∉ split '.' (compiledModule f.name)) ∧
    (c.importPrefix = "" →
      (c.modulePath f = compiledModule f.name ↔
        (∀ d ∈ directories, '-' ∉ d.toList) ∧ "" ∉ split '.' (compiledModule f.name))) := by
  have full : "" ∉ split '.' (compiledModule f.name) ↔
      [] ∉ (InterfaceFile.dottedName directories base).splitOn '.' := by
    rw [split, named.toList_compiledModule,
      splitOn_map fun c => swap_eq_iff (by decide) (by decide)]
    simp
  have below : c.modulePath f =
        join '.' (pathComponents c.importPrefix ++ [compiledModule f.name]) ↔
      (∀ d ∈ directories, '-' ∉ d.toList) ∧ "" ∉ split '.' (compiledModule f.name) := by
    rw [full, ← InterfaceFile.not_mem_dottedName_iff base,
      ← intercalate_filter_splitOn_eq_iff ((pathComponents c.importPrefix).map String.toList)
        (InterfaceFile.filter_splitOn_dottedName_ne_nil directories base),
      ← named.toList_modulePath, ← named.toList_compiledModule, ← String.toList_inj,
      Catalog.modulePath, unmapped, toList_join, List.map_append]
    rfl
  refine ⟨below, ?_⟩
  intro bare
  have alone : join '.' (pathComponents "" ++ [compiledModule f.name]) =
      compiledModule f.name := by
    rw [← String.toList_inj, toList_join]
    simp [pathComponents, split, replace, List.intercalate]
  rw [bare, alone] at below
  exact below

/-- Hyphens and dots in the last segment, a dot in a directory, and a prefix. -/
theorem modulePath_eq_compiledModule_below_prefix :
    let f : FileDecl := ⟨"v1.2/api/my-base.x.proto", some "p", none, none, [], [], [], []⟩
    let c := Catalog.empty "gen//py." []
    c.packageMap.get? f.name = none ∧
      compiledModule f.name = "v1.2.api.my_base.x_pb2" ∧
      c.modulePath f = join '.' (pathComponents c.importPrefix ++ [compiledModule f.name]) := by
  intro f c
  have named : InterfaceFile f.name ["v1.2", "api"] "my-base.x" :=
    ⟨by decide +kernel, by decide +kernel, by decide +kernel, 'm', "y-base.x".toList,
      by decide +kernel, by decide⟩
  refine ⟨rfl, by decide +kernel, ?_⟩
  exact (modulePath_eq_compiledModule_iff (c := c) named rfl).1.mpr
    ⟨by decide +kernel, by decide +kernel⟩

/-- A hyphen in a directory stays in the module path. -/
theorem modulePath_ne_compiledModule_hyphen :
    let f : FileDecl := ⟨"my-dir/a.proto", none, none, none, [], [], [], []⟩
    let c := Catalog.empty "" []
    InterfaceFile f.name ["my-dir"] "a" ∧ c.packageMap.get? f.name = none ∧
      c.modulePath f = "my-dir.a_pb2" ∧ compiledModule f.name = "my_dir.a_pb2" ∧
      c.modulePath f ≠ compiledModule f.name := by
  refine ⟨⟨?_, ?_, ?_, 'a', [], rfl, by decide⟩, rfl, ?_, ?_, ?_⟩
  all_goals decide +kernel

end HttpAdapter
