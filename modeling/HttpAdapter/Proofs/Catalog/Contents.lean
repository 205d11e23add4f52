import HttpAdapter.Proofs.Catalog.LinkFaults

/-!
What a catalog holds when files have been registered without a fault: the files in their order,
each with all that it declares, and every declaration under its name from the root:
`adds_registerAll`.
-/

namespace HttpAdapter

/-- The message that a declaration is, if it is one. -/
def Declaration.message? : Declaration → Option MessageEntry
  | .message m => some m
  | .enum _ => none

/-- The enumeration that a declaration is, if it is one. -/
def Declaration.enum? : Declaration → Option EnumEntry
  | .message _ => none
  | .enum e => some e

/-- The messages that a file declares, in their order. -/
def SourceFile.messages (s : SourceFile) : List MessageEntry :=
  s.declarations.filterMap (·.message?)

/-- The enumerations that a file declares, in their order. -/
def SourceFile.enums (s : SourceFile) : List EnumEntry := s.declarations.filterMap (·.enum?)

/-- Messages by their names from the root. -/
def messageTable (ms : List MessageEntry) : Table MessageEntry := ms.map fun m => (m.fullName, m)

/-- Enumerations by their names from the root. -/
def enumTable (es : List EnumEntry) : Table EnumEntry := es.map fun e => (e.fullName, e)

/-- A file with all that it declares. -/
def SourceFile.entry (s : SourceFile) : FileEntry := ⟨s, s.messages, s.enums⟩

namespace Catalog

/-- The catalog holds these files with all that they declare, and nothing else. -/
structure Contains (c : Catalog) (sources : List SourceFile) : Prop where
  files : c.files = sources.map fun s => (s.name, s.entry)
  messages : c.messages = messageTable (sources.flatMap (·.messages))
  enums : c.enums = enumTable (sources.flatMap (·.enums))

/-- Files with the modules that they get when they are registered one after the other. -/
def sourcesOf (c : Catalog) : List FileDecl → List SourceFile
  | [] => []
  | f :: fs => ⟨f, c.moduleOf f⟩ :: sourcesOf (c.withModule (c.moduleOf f)) fs

/-- The catalog with declarations that a registered file holds too. -/
def withDeclarations (c : Catalog) (file : SourceFile) (ds : List Declaration) : Catalog :=
  { c with
    files := c.files.update file.name fun entry =>
      ⟨entry.file, entry.messages ++ ds.filterMap (·.message?),
        entry.enums ++ ds.filterMap (·.enum?)⟩,
    messages := c.messages ++ messageTable (ds.filterMap (·.message?)),
    enums := c.enums ++ enumTable (ds.filterMap (·.enum?)) }

section Declare

variable (c : Catalog) (file : SourceFile)

theorem withDeclarations_nil : c.withDeclarations file [] = c := by
  have files : c.files.update file.name
      (fun entry => ⟨entry.file, entry.messages ++ [], entry.enums ++ []⟩) = c.files :=
    Table.update_of_same (fun entry => by simp) c.files file.name
  simp only [withDeclarations, List.filterMap_nil, files]
  simp [messageTable, enumTable]

theorem withDeclarations_cons (d : Declaration) (ds : List Declaration) :
    (c.withDeclarations file [d]).withDeclarations file ds =
      c.withDeclarations file (d :: ds) := by
  unfold withDeclarations
  cases d with
  | message m =>
      simp [Table.update_update, Function.comp_def, messageTable, enumTable,
        Declaration.message?, Declaration.enum?]
  | enum e =>
      simp [Table.update_update, Function.comp_def, messageTable, enumTable,
        Declaration.message?, Declaration.enum?]

variable {c file}

/-- A declaration that is registered without a fault is added, and nothing else changes. -/
theorem declare_eq {d : Declaration} (own : d.file = file)
    (success : (c.declare d).fault = none) :
    (c.declare d).catalog = c.withDeclarations file [d] := by
  subst own
  cases d with
  | message m =>
      simp only [declare] at success ⊢
      split at success
      · cases success
      · rename_i new
        rw [Option.not_isSome_iff_eq_none] at new
        simp [new, withDeclarations, Table.set_of_get?_eq_none m new, messageTable, enumTable,
          Declaration.message?, Declaration.enum?, Declaration.file]
  | enum e =>
      simp only [declare] at success ⊢
      split at success
      · cases success
      · rename_i new
        rw [Option.not_isSome_iff_eq_none] at new
        simp [new, withDeclarations, Table.set_of_get?_eq_none e new, messageTable, enumTable,
          Declaration.message?, Declaration.enum?, Declaration.file]

theorem each_declare_eq {ds : List Declaration} (own : ∀ d ∈ ds, d.file = file)
    (success : (Outcome.each declare c ds).fault = none) :
    (Outcome.each declare c ds).catalog = c.withDeclarations file ds := by
  induction ds generalizing c with
  | nil => exact (withDeclarations_nil c file).symm
  | cons d ds ih =>
      obtain ⟨first, others⟩ := List.forall_mem_cons.mp own
      simp only [Outcome.each] at success ⊢
      split at success
      · rename_i e outcome
        have added := declare_eq (c := c) first (by rw [outcome])
        rw [outcome] at added
        change e = _ at added
        rw [ih others success, added, withDeclarations_cons]
      · cases success

end Declare

/-- A file that is registered without a fault comes last, with all that it declares. -/
theorem register_eq {c : Catalog} {f : FileDecl} (success : (c.register f).fault = none) :
    let s : SourceFile := ⟨f, c.moduleOf f⟩
    (c.register f).catalog =
      { c.withModule (c.moduleOf f) with
        files := c.files ++ [(s.name, s.entry)],
        messages := c.messages ++ messageTable s.messages,
        enums := c.enums ++ enumTable s.enums } := by
  intro s
  unfold register at success ⊢
  split at success
  · cases success
  · rename_i new
    rw [if_neg new]
    rw [Option.not_isSome_iff_eq_none] at new
    have own : ∀ d ∈ s.declarations, d.file = s := fun d member =>
      (belongsTo_of_mem_declarations member).1
    have added := each_declare_eq own success
    refine added.trans ?_
    have files : ((c.files.set f.name ⟨s, [], []⟩).update f.name fun entry =>
        ⟨entry.file, entry.messages ++ s.messages, entry.enums ++ s.enums⟩) =
        c.files ++ [(s.name, s.entry)] :=
      (Table.update_set _ _ _ _).trans (Table.set_of_get?_eq_none s.entry new)
    exact congrArg (fun files : Table FileEntry =>
      { c.withModule (c.moduleOf f) with
        files,
        messages := c.messages ++ messageTable s.messages,
        enums := c.enums ++ enumTable s.enums }) files

/-- The module of a file depends on the names in use and on the settings. -/
theorem moduleOf_congr {c d : Catalog} (aliases : c.aliases = d.aliases)
    (importPrefix : c.importPrefix = d.importPrefix) (packageMap : c.packageMap = d.packageMap) :
    c.moduleOf = d.moduleOf := by
  have available : c.isAvailable = d.isAvailable := by
    funext name path
    rw [isAvailable, isAvailable, aliases]
  have path : c.modulePath = d.modulePath := by
    funext f
    rw [Catalog.modulePath, Catalog.modulePath, importPrefix, packageMap]
  have number : c.firstNumber = d.firstNumber := by
    funext name path
    rw [firstNumber, firstNumber, available, aliases]
  funext f
  rw [moduleOf, moduleOf, available, path, number]

theorem sourcesOf_congr {c d : Catalog} (aliases : c.aliases = d.aliases)
    (importPrefix : c.importPrefix = d.importPrefix) (packageMap : c.packageMap = d.packageMap)
    (fs : List FileDecl) : c.sourcesOf fs = d.sourcesOf fs := by
  induction fs generalizing c d with
  | nil => rfl
  | cons f fs ih =>
      rw [sourcesOf, sourcesOf, moduleOf_congr aliases importPrefix packageMap]
      refine congrArg (_ :: ·) (ih ?_ importPrefix packageMap)
      simp only [withModule, aliases]

theorem map_decl_sourcesOf (c : Catalog) (fs : List FileDecl) :
    (c.sourcesOf fs).map (·.decl) = fs := by
  induction fs generalizing c with
  | nil => rfl
  | cons f fs ih => rw [sourcesOf, List.map_cons, ih]

/-- The modules of files in a row: each is imported by the path of its file, and as the name that
    the file prefers unless it has a variant of that. -/
theorem module_of_mem_sourcesOf {c : Catalog} {fs : List FileDecl} {s : SourceFile}
    (member : s ∈ c.sourcesOf fs) :
    s.module.path = c.modulePath s.decl ∧ s.module.name = s.decl.preferredName := by
  induction fs generalizing c with
  | nil => cases member
  | cons f fs ih =>
      rcases List.mem_cons.mp member with rfl | later
      · exact ⟨moduleOf_path c f, moduleOf_name c f⟩
      · obtain ⟨path, name⟩ := ih later
        exact ⟨path, name⟩

theorem contains_empty (importPrefix : String) (packageMap : Table String) :
    (empty importPrefix packageMap).Contains [] := ⟨rfl, rfl, rfl⟩

/-- The second catalog holds these files behind what the first one holds. -/
structure Adds (c d : Catalog) (sources : List SourceFile) : Prop where
  files : d.files = c.files ++ sources.map fun s => (s.name, s.entry)
  messages : d.messages = c.messages ++ messageTable (sources.flatMap (·.messages))
  enums : d.enums = c.enums ++ enumTable (sources.flatMap (·.enums))

/-- Files that are registered without a fault come behind what the catalog held. -/
theorem adds_registerAll {c : Catalog} {fs : List FileDecl}
    (success : (Outcome.each Catalog.register c fs).fault = none) :
    Adds c (Outcome.each Catalog.register c fs).catalog (c.sourcesOf fs) := by
  induction fs generalizing c with
  | nil =>
      simp only [Outcome.each, sourcesOf]
      exact ⟨by simp, by simp [messageTable], by simp [enumTable]⟩
  | cons f fs ih =>
      simp only [Outcome.each] at success ⊢
      split at success
      · rename_i d outcome
        have equation := register_eq (c := c) (f := f) (by rw [outcome])
        rw [outcome] at equation
        change d = _ at equation
        have onward : d.sourcesOf fs = (c.withModule (c.moduleOf f)).sourcesOf fs := by
          refine sourcesOf_congr ?_ ?_ ?_ fs
          all_goals rw [equation]
        have rest := ih success
        rw [onward, equation] at rest
        rw [equation, sourcesOf]
        refine ⟨?_, ?_, ?_⟩
        · simpa using rest.files
        · simpa [messageTable] using rest.messages
        · simpa [enumTable] using rest.enums
      · cases success

theorem contains_registerAll {c : Catalog} {sources : List SourceFile}
    (contains : c.Contains sources) {fs : List FileDecl}
    (success : (Outcome.each Catalog.register c fs).fault = none) :
    (Outcome.each Catalog.register c fs).catalog.Contains (sources ++ c.sourcesOf fs) := by
  have adds := adds_registerAll success
  refine ⟨?_, ?_, ?_⟩
  · rw [adds.files, contains.files, List.map_append]
  · rw [adds.messages, contains.messages, messageTable, messageTable, messageTable,
      List.flatMap_append, List.map_append]
  · rw [adds.enums, contains.enums, enumTable, enumTable, enumTable, List.flatMap_append,
      List.map_append]

section Load

/-- Two catalogs have registered the same. -/
structure SameTables (c d : Catalog) : Prop where
  files : c.files = d.files
  messages : c.messages = d.messages
  enums : c.enums = d.enums

theorem SameTables.trans {c d e : Catalog} (first : c.SameTables d) (second : d.SameTables e) :
    c.SameTables e where
  files := first.files.trans second.files
  messages := first.messages.trans second.messages
  enums := first.enums.trans second.enums

/-- Linking files leaves what is registered. -/
theorem sameTables_linkTargets (c : Catalog) (first : Option String) (names : List String) :
    (c.linkTargets first names).catalog.SameTables c := by
  induction names generalizing c first with
  | nil => exact ⟨rfl, rfl, rfl⟩
  | cons name names ih =>
      simp only [linkTargets]
      split
      · exact ⟨rfl, rfl, rfl⟩
      · rename_i entry found
        split
        · split
          · exact ⟨rfl, rfl, rfl⟩
          · rename_i linked success
            have rest := ih (c.addTarget name linked)
              (some (first.getD entry.file.decl.homePackage))
            exact rest.trans ⟨rfl, rfl, rfl⟩
        · exact ⟨rfl, rfl, rfl⟩

/-- A load registers its files and leaves them so, whether or not it stops. -/
theorem sameTables_load {c : Catalog} (fresh : c.loaded = false) (r : Request) :
    (c.load r).catalog.SameTables (c.registerAll r) := by
  rw [load_eq fresh]
  have linked (d : Catalog) (same : d.SameTables (c.registerAll r)) :
      (d.linkTargets none r.targets).catalog.SameTables (c.registerAll r) :=
    (sameTables_linkTargets d none r.targets).trans same
  have finished (d : Catalog) (same : d.SameTables (c.registerAll r)) :
      Catalog.SameTables { d with loaded := true } (c.registerAll r) :=
    ⟨same.files, same.messages, same.enums⟩
  exact Outcome.andThen_keep (P := fun d => d.SameTables (c.registerAll r))
    (Outcome.andThen_keep ⟨rfl, rfl, rfl⟩ linked) finished

end Load

end Catalog

end HttpAdapter
