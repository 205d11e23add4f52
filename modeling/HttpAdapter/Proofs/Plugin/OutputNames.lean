import HttpAdapter.Proofs.Plugin.Targets

/-!
The names of the files in an answer.  Two generated modules go to one file exactly if they are of
one kind and their sources agree in the directory and in the module stem, in which hyphens are
underscores and the extension is gone: `outputFile_eq_iff`, `outputNames_reply`.
-/

namespace HttpAdapter

open Text

section Path

/-- What stands in front of the last segment of a path below a directory. -/
def frontOf (dir : List Char) : List Char :=
  if dir.isEmpty || dir.getLast? == some '/' then dir else dir ++ ['/']

theorem below_eq {dir name : List Char} (segment : '/' ∉ name) :
    FilePath.below dir name = frontOf dir ++ name := by
  unfold FilePath.below frontOf
  split
  · simp at segment
  · split <;> simp

/-- The front of a path and its last segment can be told apart. -/
theorem frontOf_append_inj {dir dir' name name' : List Char} (segment : '/' ∉ name)
    (segment' : '/' ∉ name') :
    frontOf dir ++ name = frontOf dir' ++ name' ↔ frontOf dir = frontOf dir' ∧ name = name' := by
  have ends (dir : List Char) : frontOf dir = [] ∨ ∃ head, frontOf dir = head ++ ['/'] := by
    unfold frontOf
    split
    · rename_i whole
      simp only [Bool.or_eq_true, List.isEmpty_iff, beq_iff_eq] at whole
      rcases whole with empty | last
      · exact Or.inl empty
      · obtain ⟨head, parts⟩ := List.getLast?_eq_some_iff.mp last
        exact Or.inr ⟨head, parts⟩
    · exact Or.inr ⟨dir, rfl⟩
  have cut {dir name : List Char} (segment : '/' ∉ name) :
      cutLast '/' (frontOf dir ++ name) =
        if frontOf dir = [] then none else some ((frontOf dir).dropLast, name) := by
    rcases ends dir with empty | ⟨head, front⟩
    · rw [empty, List.nil_append, if_pos rfl]
      exact cutLast_of_not_mem segment
    · have full : head ++ ['/'] ≠ [] := by simp
      rw [front, if_neg full, List.append_assoc, List.singleton_append,
        cutLast_append_cons head segment, List.dropLast_concat]
  constructor
  · intro same
    have cuts := congrArg (cutLast '/') same
    rw [cut segment, cut segment'] at cuts
    rcases ends dir with empty | ⟨head, front⟩
    · rcases ends dir' with empty' | ⟨head', front'⟩
      · rw [empty, empty'] at same
        exact ⟨empty.trans empty'.symm, same⟩
      · simp [empty, front'] at cuts
    · rcases ends dir' with empty' | ⟨head', front'⟩
      · simp [empty', front] at cuts
      · simp only [front, front', List.append_eq_nil_iff, List.cons_ne_self, and_false, if_false,
          List.dropLast_concat, Option.some.injEq, Prod.mk.injEq] at cuts
        rw [front, front', cuts.1]
        exact ⟨rfl, cuts.2⟩
  · rintro ⟨front, rfl⟩
    rw [front]

/-- A directory is all slashes or ends in none. -/
theorem directory_ends (path : List Char) :
    (∀ c ∈ FilePath.directory path, c = '/') ∨
      (FilePath.directory path).getLast? ≠ some '/' := by
  unfold FilePath.directory
  split
  · exact Or.inl (by simp)
  · rename_i head _ _
    dsimp only
    split
    · rename_i slashes
      refine Or.inl fun c member => ?_
      simpa using List.all_eq_true.mp slashes c member
    · refine Or.inr fun last => ?_
      change ((head ++ ['/']).rdropWhile (· == '/')).getLast? = some '/' at last
      have full : (head ++ ['/']).rdropWhile (· == '/') ≠ [] := by
        intro none
        rw [none] at last
        cases last
      have stops := List.rdropWhile_last_not (· == '/') (head ++ ['/']) full
      rw [List.getLast?_eq_some_getLast full, Option.some_inj] at last
      exact stops (beq_iff_eq.mpr last)

/-- A front is a directory of slashes, or one with a slash behind it. -/
def directoryOf (front : List Char) : List Char :=
  if front.all (· == '/') then front else front.dropLast

theorem directoryOf_frontOf (path : List Char) :
    directoryOf (frontOf (FilePath.directory path)) = FilePath.directory path := by
  have ends := directory_ends path
  generalize FilePath.directory path = dir at ends ⊢
  by_cases slashes : ∀ c ∈ dir, c = '/'
  · have front : frontOf dir = dir := by
      rcases List.eq_nil_or_concat' dir with rfl | ⟨head, c, rfl⟩
      · rfl
      · simp [frontOf, slashes c (by simp)]
    rw [front, directoryOf, if_pos (by simpa using slashes)]
  · have last : dir.getLast? ≠ some '/' := ends.resolve_left slashes
    have full : dir ≠ [] := by
      rintro rfl
      exact slashes (by simp)
    have front : frontOf dir = dir ++ ['/'] := by simp [frontOf, full, last]
    have mixed : ¬ (dir ++ ['/']).all (· == '/') = true := by simpa using slashes
    rw [front, directoryOf, if_neg mixed, List.dropLast_concat]

/-- Directories are told apart by their fronts. -/
theorem frontOf_directory_inj {path path' : List Char} :
    frontOf (FilePath.directory path) = frontOf (FilePath.directory path') ↔
      FilePath.directory path = FilePath.directory path' := by
  constructor
  · intro same
    rw [← directoryOf_frontOf path, same, directoryOf_frontOf]
  · exact congrArg frontOf

theorem slash_not_mem_moduleStem (file : String) : '/' ∉ (moduleStem file).toList := by
  have segment : '/' ∉ FilePath.lastSegment file.toList := by
    unfold FilePath.lastSegment
    split
    · rename_i whole
      exact cutLast_eq_none whole
    · rename_i before base cut
      exact (cutLast_eq_some cut).2
  have stem : '/' ∉ FilePath.stem (FilePath.lastSegment file.toList) :=
    fun member => segment (stem_subset _ member)
  rw [moduleStem]
  exact not_mem_replace (by decide) (by rwa [fileStem, String.toList_ofList])

/-- The names of two modules in one directory are told apart by their kinds and their stems. -/
theorem append_ending_inj {stem stem' : List Char} {kind kind' : ModuleKind} :
    stem ++ kind.ending.toList = stem' ++ kind'.ending.toList ↔ kind = kind' ∧ stem = stem' := by
  constructor
  · intro same
    have ends : kind = kind' := by
      have reversed := congrArg (fun text => text.reverse.take 4) same
      simp only [List.reverse_append] at reversed
      cases kind <;> cases kind' <;> first | rfl | simp [ModuleKind.ending] at reversed
    subst ends
    exact ⟨rfl, List.append_cancel_right same⟩
  · rintro ⟨rfl, rfl⟩
    rfl

/-- Two modules go to one file exactly if they are of one kind and their sources agree in the
    directory and in the module stem. -/
theorem outputFile_eq_iff {kind kind' : ModuleKind} {file file' : String} :
    outputFile kind file = outputFile kind' file' ↔ kind = kind' ∧
      FilePath.directory file.toList = FilePath.directory file'.toList ∧
      moduleStem file = moduleStem file' := by
  have segment (kind : ModuleKind) (file : String) :
      '/' ∉ (moduleStem file ++ kind.ending).toList := by
    rw [String.toList_append, List.mem_append, not_or]
    refine ⟨slash_not_mem_moduleStem file, ?_⟩
    cases kind <;> decide
  rw [outputFile, outputFile, siblingFile, siblingFile, String.ofList_inj,
    below_eq (segment kind file), below_eq (segment kind' file'),
    frontOf_append_inj (segment kind file) (segment kind' file'), frontOf_directory_inj,
    String.toList_append, String.toList_append, append_ending_inj, String.toList_inj]
  tauto

end Path

namespace Plugin

/-- Two files whose modules go to the same files: they agree in the directory and in the last
    segment, without its extension and with underscores for hyphens. -/
def SharesOutput (file file' : String) : Prop :=
  FilePath.directory file.toList = FilePath.directory file'.toList ∧
    moduleStem file = moduleStem file'

/-- The targets of a request that have an eligible method. -/
def servedTargets (r : Request) : List String :=
  r.targets.filter fun name => (r.file? name).any (·.hasEligible)

variable {r : Request}

theorem map_name_servedFiles (loaded : ((start r).load r).fault = none) :
    (servedFiles r).map (·.name) = servedTargets r := by
  have related := forall₂_linkedFiles r loaded
  have named (f : TargetFile) (name : String)
      (declared : r.file? name = some f.entry.file.decl) : f.name = name := by
    have own := List.find?_some (p := fun d : FileDecl => d.name == name) declared
    exact beq_iff_eq.mp own
  unfold servedFiles servedTargets
  generalize linkedFiles r = files at related
  generalize r.targets = names at related
  induction related with
  | nil => rfl
  | @cons name f names files first _ ih =>
      rw [List.filter_cons, List.filter_cons, first.1, Option.any_some]
      split
      · rw [List.map_cons, ih, named f name first.1]
      · exact ih

/-- The files in an answer are the adapters of the served targets and behind them their routers.
    Their names are distinct exactly if no two of those targets share an output; an adapter and a
    router never have one name. -/
theorem outputNames_reply [Grammar.Interpreter] (answered : (reply r).error = none) :
    (reply r).files.map (·.name) =
      (servedTargets r).map (outputFile .adapter) ++ (servedTargets r).map (outputFile .router) ∧
    (((reply r).files.map (·.name)).Nodup ↔
      (servedTargets r).Pairwise fun m n => ¬ SharesOutput m n) ∧
    ∀ m n, outputFile .adapter m ≠ outputFile .router n := by
  have generated := generate_of_error_eq_none answered
  have names : (reply r).files.map (·.name) =
      (servedTargets r).map (outputFile .adapter) ++
        (servedTargets r).map (outputFile .router) := by
    rw [eq_of_generate r generated, List.map_append, List.map_map, List.map_map,
      ← map_name_servedFiles (generateAll_of_generate r generated).1, List.map_map, List.map_map]
    rfl
  have kinds : ∀ m n, outputFile .adapter m ≠ outputFile .router n := by
    intro m n same
    cases (outputFile_eq_iff.mp same).1
  refine ⟨names, ?_, kinds⟩
  have one (kind : ModuleKind) : ((servedTargets r).map (outputFile kind)).Nodup ↔
      (servedTargets r).Pairwise fun m n => ¬ SharesOutput m n := by
    rw [List.Nodup, List.pairwise_map]
    simp only [ne_eq, outputFile_eq_iff, true_and, SharesOutput]
  rw [names, List.nodup_append, one, one]
  constructor
  · rintro ⟨apart, -⟩
    exact apart
  · intro apart
    refine ⟨apart, apart, ?_⟩
    intro adapter first router second same
    obtain ⟨m, -, rfl⟩ := List.mem_map.mp first
    obtain ⟨n, -, rfl⟩ := List.mem_map.mp second
    exact kinds m n same

/-- Targets of one name in two directories are answered by four files, of four names. -/
theorem outputNames_reply_two_directories :
    let get : Option HttpRule := some ⟨some (.standard .get "/v1"), "", "", []⟩
    let first : FileDecl := ⟨"x/a.proto", some "p", none, none, [⟨"M", [], [], []⟩], [],
      [⟨"S", [⟨"A", "M", "M", false, false, get⟩]⟩], []⟩
    let second : FileDecl := ⟨"y/a.proto", some "p", none, none, [], [],
      [⟨"T", [⟨"B", "M", "M", false, false, get⟩]⟩], []⟩
    let r : Request := ⟨"", ["x/a.proto", "y/a.proto"], [first, second]⟩
    let _ : Grammar.Interpreter := .bare
    (reply r).error = none ∧ ((reply r).files.map (·.name)).Nodup ∧ (reply r).files.length = 4 := by
  intro get first second r
  have legible : ∀ f ∈ linkedFiles r, @TargetFile.Legible .bare f := by decide +kernel
  intro _
  have answer : reply r = _ := reply_eq_of_legible (s := .default) (by decide +kernel)
    (by decide +kernel) legible (by decide +kernel)
  have answered : (reply r).error = none := by rw [answer]
  have apart : (servedTargets r).Pairwise fun m n => ¬ SharesOutput m n := by
    have names : servedTargets r = ["x/a.proto", "y/a.proto"] := by decide +kernel
    rw [names, List.pairwise_pair]
    rintro ⟨directory, -⟩
    revert directory
    decide +kernel
  refine ⟨answered, (outputNames_reply answered).2.1.mpr apart, ?_⟩
  rw [answer, List.length_append, List.length_map, List.length_map]
  decide +kernel

/-- Two targets that differ by a hyphen are answered by two adapters of one name, and by two
    routers of one name. -/
theorem outputNames_clash :
    let get : Option HttpRule := some ⟨some (.standard .get "/v1"), "", "", []⟩
    let first : FileDecl := ⟨"a-b.proto", some "p", none, none, [⟨"M", [], [], []⟩], [],
      [⟨"S", [⟨"A", "M", "M", false, false, get⟩]⟩], []⟩
    let second : FileDecl := ⟨"a_b.proto", some "p", none, none, [], [],
      [⟨"T", [⟨"B", "M", "M", false, false, get⟩]⟩], []⟩
    let r : Request := ⟨"", ["a-b.proto", "a_b.proto"], [first, second]⟩
    let _ : Grammar.Interpreter := .bare
    r.targets.Nodup ∧ (reply r).error = none ∧
      (reply r).files.map (·.name) =
        ["a_b_pb2_http.py", "a_b_pb2_http.py", "a_b_pb2_http_router.py", "a_b_pb2_http_router.py"] ∧
      ¬ ((reply r).files.map (·.name)).Nodup := by
  intro get first second r
  have legible : ∀ f ∈ linkedFiles r, @TargetFile.Legible .bare f := by decide +kernel
  intro _
  have answer : reply r = _ := reply_eq_of_legible (s := .default) (by decide +kernel)
    (by decide +kernel) legible (by decide +kernel)
  have names : (reply r).files.map (·.name) =
      ["a_b_pb2_http.py", "a_b_pb2_http.py", "a_b_pb2_http_router.py",
        "a_b_pb2_http_router.py"] := by
    rw [answer, List.map_append, List.map_map, List.map_map]
    decide +kernel
  refine ⟨by decide, by rw [answer], names, ?_⟩
  rw [names]
  decide

end Plugin

end HttpAdapter
