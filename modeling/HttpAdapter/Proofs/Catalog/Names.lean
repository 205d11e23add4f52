import HttpAdapter.Proofs.Catalog.Step

/-!
The names that modules are imported as, over whole sessions.  In every catalog that commands lead
to, also where loads stopped on the way, each registered module holds its name; so modules of two
paths have two names, and none has a reserved one.  The invariant is `namesSettled_run`.
-/

namespace HttpAdapter

/-- What a module made from a file satisfies: its path begins with a component, and its name holds
    no dot and is no reserved word. -/
structure ImportedModule.WellFormed (m : ImportedModule) : Prop where
  path : ∃ c cs, m.path.toList = c :: cs ∧ c ≠ '.'
  dotless : '.' ∉ m.boundName.toList
  free : Grammar.isKeyword m.boundName.toList = false

theorem ImportedModule.WellFormed.path_ne_empty {m : ImportedModule} (formed : m.WellFormed) :
    m.path ≠ "" := by
  obtain ⟨c, cs, letters, -⟩ := formed.path
  intro empty
  simp [empty] at letters

namespace Catalog

theorem wellFormed_moduleOf (c : Catalog) (f : FileDecl) : (c.moduleOf f).WellFormed where
  path := by
    rw [moduleOf_path]
    exact modulePath_eq_cons f _ _
  dotless := (boundName_moduleOf_spec c f).1
  free := (boundName_moduleOf_spec c f).2

/-- Names that are held stay with who holds them. -/
theorem extends_aliases_of_step {c d : Catalog} (step : Step c d) :
    c.aliases.Extends d.aliases := by
  cases step with
  | reserve name path free =>
      apply Table.extends_set
      intro old found
      simp [free] at found
  | openFile f new => exact extends_aliases_withModule c f
  | _ => exact Table.Extends.refl _

theorem extends_aliases_of_steps {c d : Catalog} (steps : Steps c d) :
    c.aliases.Extends d.aliases :=
  steps.keep (P := fun d => c.aliases.Extends d.aliases)
    (fun _ _ step extension => extension.trans (extends_aliases_of_step step))
    (Table.Extends.refl _)

/-- A file is registered after a step if it was before or if the step is the one that named it. -/
theorem file_of_step {c d : Catalog} (step : Step c d) {name : String} {entry : FileEntry}
    (found : d.files.get? name = some entry) :
    (∃ old, c.files.get? name = some old ∧ old.file = entry.file) ∨
      ∃ f, name = f.name ∧ d = c.openFile f ∧ entry = ⟨⟨f, c.moduleOf f⟩, [], []⟩ := by
  cases step with
  | openFile f new =>
      simp only [openFile, Table.get?_set] at found
      split at found
      · rename_i key
        exact Or.inr ⟨f, key.symm, rfl, (Option.some.inj found).symm⟩
      · exact Or.inl ⟨entry, found, rfl⟩
  | addMessage m unlinked member new => exact Or.inl (file_of_update found fun _ => rfl)
  | addEnum e unlinked new => exact Or.inl (file_of_update found fun _ => rfl)
  | _ => exact Or.inl ⟨entry, found, rfl⟩

/-- The names that modules are imported as are settled: the reserved ones belong to no module, and
    every registered module has its own. -/
structure NamesSettled (c : Catalog) : Prop where
  reserved : ∀ name ∈ reservedNames, c.aliases.get? name = some ""
  modules : ∀ name entry, c.files.get? name = some entry →
    HasName c.aliases entry.file.module ∧ entry.file.module.WellFormed

theorem namesSettled_empty (importPrefix : String) (packageMap : Table String) :
    (empty importPrefix packageMap).NamesSettled where
  reserved := by
    intro name reserved
    apply Table.get?_of_mem
    · have distinct : reservedNames.Nodup := by decide +kernel
      simpa [empty, Table.keys, Function.comp_def] using distinct
    · exact List.mem_map.mpr ⟨name, reserved, rfl⟩
  modules := by
    intro name entry found
    simp [empty, Table.get?] at found

theorem NamesSettled.step {c d : Catalog} (step : Step c d) (settled : c.NamesSettled) :
    d.NamesSettled where
  reserved := fun name reserved =>
    extends_aliases_of_step step _ _ (settled.reserved name reserved)
  modules := by
    intro name entry found
    rcases file_of_step step found with ⟨old, before, same⟩ | ⟨f, rfl, rfl, rfl⟩
    · obtain ⟨named, formed⟩ := settled.modules name old before
      rw [← same]
      exact ⟨named.mono (extends_aliases_of_step step), formed⟩
    · exact ⟨hasName_moduleOf c f, wellFormed_moduleOf c f⟩

/-- The names are settled in every catalog that commands lead to. -/
theorem namesSettled_run (importPrefix : String) (packageMap : Table String)
    (commands : List Command) :
    ((empty importPrefix packageMap).run commands).NamesSettled :=
  (steps_run (targetsRegistered_empty importPrefix packageMap) commands).keep
    (fun _ _ => NamesSettled.step) (namesSettled_empty importPrefix packageMap)

/-- The module of every registered file prefers the name that its file prefers. -/
theorem preferredName_run (importPrefix : String) (packageMap : Table String)
    (commands : List Command) {name : String} {entry : FileEntry}
    (found : ((empty importPrefix packageMap).run commands).files.get? name = some entry) :
    entry.file.module.name = entry.file.decl.preferredName := by
  have kept : ∀ name entry,
      ((empty importPrefix packageMap).run commands).files.get? name = some entry →
        entry.file.module.name = entry.file.decl.preferredName := by
    refine (steps_run (targetsRegistered_empty importPrefix packageMap) commands).keep
      (P := fun c => ∀ name entry, c.files.get? name = some entry →
        entry.file.module.name = entry.file.decl.preferredName) ?_ ?_
    · intro c d step before name entry found
      rcases file_of_step step found with ⟨old, was, same⟩ | ⟨f, rfl, rfl, rfl⟩
      · rw [← same]
        exact before name old was
      · exact moduleOf_name c f
    · intro name entry found
      simp [empty, Table.get?] at found
  exact kept name entry found

/-- Two modules with one name have one path. -/
theorem NamesSettled.path_eq {c : Catalog} (settled : c.NamesSettled) {m n : String}
    {f g : FileEntry} (left : c.files.get? m = some f) (right : c.files.get? n = some g)
    (name : f.file.module.boundName = g.file.module.boundName) :
    f.file.module.path = g.file.module.path := by
  have first := (settled.modules m f left).1.held
  have second := (settled.modules n g right).1.held
  rw [name, second] at first
  exact (Option.some.inj first).symm

/-- No module has a reserved name: the empty path holds those. -/
theorem NamesSettled.not_mem_reservedNames {c : Catalog} (settled : c.NamesSettled) {n : String}
    {f : FileEntry} (found : c.files.get? n = some f) :
    f.file.module.boundName ∉ reservedNames := by
  intro reserved
  obtain ⟨named, formed⟩ := settled.modules n f found
  have held := named.held
  rw [settled.reserved _ reserved, Option.some.injEq] at held
  exact formed.path_ne_empty held.symm

/-- In every catalog that commands lead to, each registered module holds its name.  Modules of two
    paths have two names, modules of one path that prefer one name have one, and no name is
    reserved for generated code or a reserved word.  What holds a name holds it for good. -/
theorem importNames_run (importPrefix : String) (packageMap : Table String)
    (commands : List Command) :
    let c := (empty importPrefix packageMap).run commands
    (∀ n f, c.files.get? n = some f →
      c.aliases.get? f.file.module.boundName = some f.file.module.path ∧
      f.file.module.boundName ∉ reservedNames ∧
      Grammar.isKeyword f.file.module.boundName.toList = false) ∧
    (∀ m n f g, c.files.get? m = some f → c.files.get? n = some g →
      (f.file.module.path ≠ g.file.module.path →
        f.file.module.boundName ≠ g.file.module.boundName) ∧
      (f.file.module.path = g.file.module.path → f.file.module.name = g.file.module.name →
        f.file.module.boundName = g.file.module.boundName)) ∧
    ∀ name path, c.aliases.get? name = some path →
      ∀ later, (c.run later).aliases.get? name = some path := by
  intro c
  have settled : c.NamesSettled := namesSettled_run importPrefix packageMap commands
  refine ⟨?_, ?_, ?_⟩
  · intro n f found
    obtain ⟨named, formed⟩ := settled.modules n f found
    exact ⟨named.held, settled.not_mem_reservedNames found, formed.free⟩
  · intro m n f g left right
    refine ⟨?_, ?_⟩
    · intro paths name
      exact paths (settled.path_eq left right name)
    · exact (settled.modules m f left).1.boundName_eq (settled.modules n g right).1
  · intro name path held later
    have steps := steps_run (targetsRegistered_run importPrefix packageMap commands) later
    exact extends_aliases_of_steps steps name path held

/-- The second of two files in one package gets a variant of its name, after the plain variant
    was reserved for another path. -/
theorem importNames_run_two_files :
    let first : FileDecl := ⟨"x/a.proto", some "foo", none, none, [], [], [], []⟩
    let second : FileDecl := ⟨"y/a.proto", some "foo", none, none, [], [], [], []⟩
    let c := (empty "" []).run [.reserve "foo_0" "z.a_pb2", .load ⟨"", [], [first, second]⟩]
    ∃ f g, c.files.get? "x/a.proto" = some f ∧ c.files.get? "y/a.proto" = some g ∧
      f.file.module.boundName ≠ g.file.module.boundName ∧
      c.aliases.get? g.file.module.boundName = some g.file.module.path ∧
      c.aliases.get? "foo_0" = some "z.a_pb2" ∧
      (c.run [.setPrefix "p"]).aliases.get? "foo_0" = some "z.a_pb2" := by
  intro first second c
  have both : (c.files.get? "x/a.proto").isSome ∧ (c.files.get? "y/a.proto").isSome := by
    decide +kernel
  obtain ⟨f, left⟩ := Option.isSome_iff_exists.mp both.1
  obtain ⟨g, right⟩ := Option.isSome_iff_exists.mp both.2
  have paths : (c.files.get? "x/a.proto").map (·.file.module.path) ≠
      (c.files.get? "y/a.proto").map (·.file.module.path) := by decide +kernel
  rw [left, right] at paths
  have held : c.aliases.get? "foo_0" = some "z.a_pb2" := by decide +kernel
  obtain ⟨names, pairs, kept⟩ := importNames_run "" []
    [.reserve "foo_0" "z.a_pb2", .load ⟨"", [], [first, second]⟩]
  refine ⟨f, g, left, right, (pairs _ _ f g left right).1 ?_, (names _ g right).1, held, ?_⟩
  · intro same
    exact paths (congrArg some same)
  · exact kept _ _ held [.setPrefix "p"]

end Catalog

end HttpAdapter
