import HttpAdapter.Proofs.Catalog.Names
import HttpAdapter.Proofs.Catalog.Representation
import HttpAdapter.Proofs.Generation.Layout

/-!
The import lines of a generated module.  One module of each path is imported, the first one that a
handler uses, so each name is bound once; but a handler whose module has another name than the
first of its path is left without its name: `bindsArgument_iff`.
-/

namespace HttpAdapter

open Catalog Text

/-- A line that imports the module of a path as a name: by its whole path, or as the last component
    from the package in front of it. -/
inductive ImportsAs (path name : String) : String → Prop
  | whole : '.' ∉ path.toList → ImportsAs path name ("import " ++ path ++ " as " ++ name)
  | member {package component : String} : path = package ++ "." ++ component →
      '.' ∉ component.toList →
      ImportsAs path name ("from " ++ package ++ " import " ++ component ++ " as " ++ name)

/-- The import statement of a module imports its path as its name. -/
theorem ImportedModule.importsAs {m : ImportedModule}
    (start : ∃ c cs, m.path.toList = c :: cs ∧ c ≠ '.') :
    ImportsAs m.path m.boundName m.importStatement := by
  obtain ⟨c, cs, letters, noDot⟩ := start
  unfold importStatement
  split
  · rename_i d package component cut
    obtain ⟨parts, dotless⟩ := cutLast_eq_some cut
    refine .member ?_ (by simpa using dotless)
    rw [← String.toList_inj, parts]
    simp
  · rename_i component cut
    obtain ⟨parts, -⟩ := cutLast_eq_some cut
    rw [letters, List.nil_append, List.cons.injEq] at parts
    exact absurd parts.1 noDot
  · rename_i cut
    exact .whole (cutLast_eq_none cut)

theorem ImportedModule.WellFormed.importsAs {m : ImportedModule} (formed : m.WellFormed) :
    ImportsAs m.path m.boundName m.importStatement := ImportedModule.importsAs formed.path

/-- The modules that are kept of those met so far: some of them, one of each path. -/
structure Distinct (met kept : List ImportedModule) : Prop where
  subset : kept ⊆ met
  nodup : (kept.map (·.path)).Nodup
  covers : ∀ m ∈ met, ∃ k ∈ kept, k.path = m.path

theorem Distinct.snoc {met kept : List ImportedModule} (distinct : Distinct met kept)
    (m : ImportedModule) :
    Distinct (met ++ [m]) (if kept.any (·.path == m.path) then kept else kept ++ [m]) := by
  by_cases known : kept.any (·.path == m.path)
  · obtain ⟨k, member, same⟩ := List.any_eq_true.mp known
    rw [if_pos known]
    refine ⟨fun _ inKept => List.mem_append_left _ (distinct.subset inKept), distinct.nodup, ?_⟩
    intro n inMet
    rcases List.mem_append.mp inMet with before | last
    · exact distinct.covers n before
    · rw [List.mem_singleton.mp last]
      exact ⟨k, member, by simpa using same⟩
  · have new : m.path ∉ kept.map (·.path) := by
      intro old
      obtain ⟨k, member, same⟩ := List.mem_map.mp old
      exact known (List.any_eq_true.mpr ⟨k, member, by simpa using same⟩)
    rw [if_neg known]
    refine ⟨?_, ?_, ?_⟩
    · have front := List.Subset.trans distinct.subset (List.subset_append_left met [m])
      exact List.append_subset.mpr ⟨front, List.subset_append_right met [m]⟩
    · simpa [List.nodup_append] using ⟨distinct.nodup, by simpa using new⟩
    · intro n inMet
      rcases List.mem_append.mp inMet with before | last
      · obtain ⟨k, member, same⟩ := distinct.covers n before
        exact ⟨k, List.mem_append_left _ member, same⟩
      · exact ⟨m, by simp, by rw [List.mem_singleton.mp last]⟩

theorem distinct_distinctModules (modules : List ImportedModule) :
    Distinct modules (distinctModules modules) := by
  induction modules using List.reverseRecOn with
  | nil => constructor <;> simp [distinctModules]
  | append_singleton modules m ih =>
      have step := ih.snoc m
      simpa [distinctModules] using step

/-- The name that an expression begins with, up to its first dot. -/
def rootName (expr : String) : String := String.ofList (expr.toList.takeWhile (· ≠ '.'))

/-- The class of a message is reached from the name of its module. -/
theorem rootName_className {m : MessageEntry} (formed : m.file.module.WellFormed) :
    rootName m.className = m.file.module.boundName := by
  have letters : m.className.toList = m.file.module.boundName.toList ++ '.' ::
      (join '.' (m.outers ++ [m.decl.name])).toList := by
    obtain ⟨first, others, parts⟩ := List.exists_cons_of_ne_nil
      (List.append_ne_nil_of_right_ne_nil m.outers (List.cons_ne_nil m.decl.name []))
    rw [MessageEntry.className, List.cons_append, parts]
    simp [List.intercalate]
  rw [rootName, letters, List.takeWhile_append_of_pos]
  · simp
  · intro c member
    simp only [ne_eq, decide_eq_true_eq]
    rintro rfl
    exact formed.dotless member

/-- The methods of a file that get a handler, over all services that appear. -/
def TargetFile.handled (f : TargetFile) : List LinkedMethod := f.exposed.flatMap (·.served)

/-- The module that a method takes its argument from. -/
def LinkedMethod.module (h : LinkedMethod) : ImportedModule := h.request.file.module

/-- One import line, no more, binds the name that the argument of a handler begins with, and it
    imports the module of the request. -/
def TargetFile.BindsArgument (f : TargetFile) (h : LinkedMethod) : Prop :=
  ∃ m, f.modules.filter (·.boundName == rootName h.request.className) = [m] ∧
    m.path = h.module.path

/-- The handler of a method stands in the module, and makes its argument from the class of the
    request. -/
theorem argument_mem_lines {f : TargetFile} {h : LinkedMethod} (handled : h ∈ f.handled)
    (kind : ModuleKind) (requestContext : Bool) :
    "        arg = " ++ h.request.className ++ "()" ∈ f.lines kind requestContext := by
  obtain ⟨s, exposed, served⟩ := List.mem_flatMap.mp handled
  refine (handlerLines_infix_lines exposed served kind requestContext).subset ?_
  simp [LinkedMethod.lines, HandlerOutline.lines, LinkedMethod.outline]

theorem distinct_modules (f : TargetFile) :
    Distinct (f.handled.map (·.module)) f.modules := distinct_distinctModules _

/-- A line that binds the name of a module is the only one if no two lines bind one name. -/
theorem filter_boundName_eq {modules : List ImportedModule} {m : ImportedModule}
    (names : (modules.map (·.boundName)).Nodup) (member : m ∈ modules) :
    modules.filter (·.boundName == m.boundName) = [m] := by
  induction modules with
  | nil => simp at member
  | cons n modules ih =>
      rw [List.map_cons, List.nodup_cons] at names
      obtain ⟨apart, names⟩ := names
      rcases List.mem_cons.mp member with rfl | later
      · have others : modules.filter (·.boundName == m.boundName) = [] := by
          rw [List.filter_eq_nil_iff]
          intro k inRest same
          exact apart (List.mem_map.mpr ⟨k, inRest, by simpa using same⟩)
        simp [others]
      · have different : n.boundName ≠ m.boundName := by
          intro same
          exact apart (List.mem_map.mpr ⟨m, later, same.symm⟩)
        rw [List.filter_cons_of_neg (by simpa using different), ih names later]

/-- The modules that a target takes its arguments from, in a catalog that has settled all names:
    each is well-formed, holds its name, and has the path that the name stands for. -/
structure Settled (modules : List ImportedModule) : Prop where
  formed : ∀ m ∈ modules, m.WellFormed
  path_eq : ∀ m ∈ modules, ∀ n ∈ modules, m.boundName = n.boundName → m.path = n.path
  boundName_eq : ∀ m ∈ modules, ∀ n ∈ modules, m.path = n.path → m.name = n.name →
    m.boundName = n.boundName

/-- Modules of different paths that are settled have different names. -/
theorem Settled.nodup_boundName {modules kept : List ImportedModule} (settled : Settled modules)
    (subset : kept ⊆ modules) (paths : (kept.map (·.path)).Nodup) :
    (kept.map (·.boundName)).Nodup := by
  rw [List.nodup_map_iff_inj_on (List.Nodup.of_map _ paths)]
  intro m left n right same
  have path := settled.path_eq m (subset left) n (subset right) same
  exact List.inj_on_of_nodup_map paths left right path

/-- A handler has its argument bound if the module imported for its path has its name. -/
theorem bindsArgument_iff {f : TargetFile} (settled : Settled (f.handled.map (·.module)))
    {h : LinkedMethod} (handled : h ∈ f.handled) :
    f.BindsArgument h ↔
      ∀ m ∈ f.modules, m.path = h.module.path → m.boundName = h.module.boundName := by
  obtain ⟨subset, paths, covers⟩ := distinct_modules f
  have used : h.module ∈ f.handled.map (·.module) := List.mem_map_of_mem handled
  have names := settled.nodup_boundName subset paths
  have root : rootName h.request.className = h.module.boundName :=
    rootName_className (settled.formed _ used)
  unfold TargetFile.BindsArgument
  rw [root]
  constructor
  · rintro ⟨m, only, path⟩ n member same
    obtain ⟨inModules, name⟩ : m ∈ f.modules ∧ m.boundName = h.module.boundName := by
      have inFilter : m ∈ f.modules.filter (·.boundName == h.module.boundName) := by
        simp [only]
      simpa using List.mem_filter.mp inFilter
    rw [List.inj_on_of_nodup_map paths member inModules (same.trans path.symm), name]
  · intro same
    obtain ⟨m, member, path⟩ := covers _ used
    refine ⟨m, ?_, path⟩
    rw [← filter_boundName_eq names member, same m member path]

section Run

variable (importPrefix : String) (packageMap : Table String) (commands : List Command)

/-- The request of a handler belongs to a registered file. -/
theorem registered_of_handled {name : String} {f : TargetFile}
    (found : ((empty importPrefix packageMap).run commands).targets.get? name = some f) :
    ∀ h ∈ f.handled, ∃ entry,
      ((empty importPrefix packageMap).run commands).files.get? h.request.file.name = some entry ∧
        entry.file = h.request.file := by
  have consistent := consistent_after importPrefix packageMap commands
  obtain ⟨before, r, after, history⟩ := exists_linkedBy found
  intro h handled
  obtain ⟨s, exposed, served⟩ := List.mem_flatMap.mp handled
  obtain ⟨request, -⟩ := history.methods (targetsRegistered_empty _ _) consistent s
    (List.mem_of_mem_filter exposed) h (List.mem_of_mem_filter served)
  exact consistent.messages.registered _ _ request

theorem settled_of_handled {name : String} {f : TargetFile}
    (found : ((empty importPrefix packageMap).run commands).targets.get? name = some f) :
    Settled (f.handled.map (·.module)) := by
  have settled := namesSettled_run importPrefix packageMap commands
  have registered : ∀ m ∈ f.handled.map (·.module), ∃ key entry,
      ((empty importPrefix packageMap).run commands).files.get? key = some entry ∧
        entry.file.module = m := by
    intro m member
    obtain ⟨h, handled, rfl⟩ := List.mem_map.mp member
    obtain ⟨entry, held, same⟩ := registered_of_handled _ _ _ found h handled
    exact ⟨_, entry, held, by rw [same, LinkedMethod.module]⟩
  refine ⟨?_, ?_, ?_⟩
  · intro m member
    obtain ⟨key, entry, held, rfl⟩ := registered m member
    exact (settled.modules key entry held).2
  · intro m left n right name
    obtain ⟨_, first, leftHeld, rfl⟩ := registered m left
    obtain ⟨_, second, rightHeld, rfl⟩ := registered n right
    exact settled.path_eq leftHeld rightHeld name
  · intro m left n right
    obtain ⟨_, first, leftHeld, rfl⟩ := registered m left
    obtain ⟨_, second, rightHeld, rfl⟩ := registered n right
    exact (settled.modules _ first leftHeld).1.boundName_eq (settled.modules _ second rightHeld).1

end Run

/-- In every catalog that commands lead to, the import lines of a module bind each name once, none
    that generated code uses itself, and each for a handler.  A handler never finds the name of its
    argument bound to another path.  It is bound, by one line, if and only if the module that is
    imported for its path has its name, which holds for all handlers if any two of them with one
    path have one name, as they do where their files prefer one name. -/
theorem imports_run (importPrefix : String) (packageMap : Table String) (commands : List Command)
    {name : String} {f : TargetFile}
    (found : ((empty importPrefix packageMap).run commands).targets.get? name = some f)
    (kind : ModuleKind) (requestContext : Bool) :
    let c := (empty importPrefix packageMap).run commands
    (f.exposed ≠ [] →
      f.moduleText kind requestContext = .ok (textOfLines (f.lines kind requestContext))) ∧
    (∀ m ∈ f.modules, ImportsAs m.path m.boundName m.importStatement ∧
      m.importStatement ∈ f.lines kind requestContext ∧ m.boundName ∉ reservedNames ∧
      ∃ h ∈ f.handled, h.module = m) ∧
    (f.modules.map (·.boundName)).Nodup ∧
    (∀ h ∈ f.handled,
      "        arg = " ++ h.request.className ++ "()" ∈ f.lines kind requestContext ∧
      (∃ entry, c.files.get? h.request.file.name = some entry ∧ entry.file = h.request.file) ∧
      (∀ m ∈ f.modules, m.boundName = rootName h.request.className → m.path = h.module.path) ∧
      (f.BindsArgument h ↔
        ∀ m ∈ f.modules, m.path = h.module.path → m.boundName = h.module.boundName)) ∧
    ((∀ h ∈ f.handled, f.BindsArgument h) ↔
      ∀ g ∈ f.handled, ∀ h ∈ f.handled, g.module.path = h.module.path →
        g.module.boundName = h.module.boundName) ∧
    ((∀ g ∈ f.handled, ∀ h ∈ f.handled, g.module.path = h.module.path →
        g.module.name = h.module.name) →
      ∀ h ∈ f.handled, f.BindsArgument h) := by
  intro c
  have settled := settled_of_handled importPrefix packageMap commands found
  have registered := registered_of_handled importPrefix packageMap commands found
  obtain ⟨subset, paths, covers⟩ := distinct_modules f
  have used {h : LinkedMethod} (handled : h ∈ f.handled) : h.module ∈ f.handled.map (·.module) :=
    List.mem_map_of_mem handled
  have exact : (∀ h ∈ f.handled, f.BindsArgument h) ↔
      ∀ g ∈ f.handled, ∀ h ∈ f.handled, g.module.path = h.module.path →
        g.module.boundName = h.module.boundName := by
    constructor
    · -- Both handlers have the name of the one module that is kept for their path.
      intro bound g left h right path
      obtain ⟨m, member, same⟩ := covers _ (used left)
      rw [← (bindsArgument_iff settled left).mp (bound g left) m member same,
        ← (bindsArgument_iff settled right).mp (bound h right) m member (same.trans path)]
    · intro names h handled
      rw [bindsArgument_iff settled handled]
      intro m member path
      obtain ⟨g, left, rfl⟩ := List.mem_map.mp (subset member)
      exact names g left h handled path
  refine ⟨fun full => moduleText_eq full kind requestContext, ?_, ?_, ?_, exact, ?_⟩
  · intro m member
    obtain ⟨h, handled, rfl⟩ := List.mem_map.mp (subset member)
    refine ⟨(settled.formed _ (used handled)).importsAs, ?_, ?_, h, handled, rfl⟩
    · simp only [TargetFile.lines, List.mem_append]
      exact Or.inl (Or.inl (Or.inr (List.mem_map_of_mem member)))
    · obtain ⟨entry, held, same⟩ := registered h handled
      rw [LinkedMethod.module, ← same]
      exact (namesSettled_run importPrefix packageMap commands).not_mem_reservedNames held
  · exact settled.nodup_boundName subset paths
  · intro h handled
    refine ⟨argument_mem_lines handled kind requestContext, registered h handled, ?_,
      bindsArgument_iff settled handled⟩
    intro m member name
    rw [rootName_className (settled.formed _ (used handled))] at name
    exact settled.path_eq m (subset member) _ (used handled) name
  · intro preferred
    rw [exact]
    intro g left h right path
    exact settled.boundName_eq _ (used left) _ (used right) path (preferred g left h right path)

/-- Two files are mapped to one module, and prefer two names: only the first one is bound. -/
theorem argument_unbound_two_names :
    let get (path : String) : Option HttpRule := some ⟨some (.standard .get path), "", "", []⟩
    let first : FileDecl := ⟨"a/x.proto", some "p", none, none, [⟨"M", [], [], []⟩], [],
      [⟨"S", [⟨"A", ".p.M", ".p.M", false, false, get "/a"⟩,
        ⟨"B", ".q.N", ".p.M", false, false, get "/b"⟩]⟩], []⟩
    let second : FileDecl := ⟨"b/x.proto", some "q", none, none, [⟨"N", [], [], []⟩], [], [], []⟩
    let c := (empty "" [("a/x.proto", "m"), ("b/x.proto", "m")]).run
      [.load ⟨"", ["a/x.proto"], [first, second]⟩]
    ∃ f h, c.targets.get? "a/x.proto" = some f ∧ h ∈ f.handled ∧
      f.modules.map (·.importStatement) = ["from m import x_pb2 as p"] ∧
      h.request.className = "q.N" ∧ h.module.path = "m.x_pb2" ∧ ¬ f.BindsArgument h := by
  intro get first second c
  have unbound : (c.targets.get? "a/x.proto").any fun f =>
      f.modules.map (·.importStatement) = ["from m import x_pb2 as p"] ∧
        f.handled.any fun h => h.request.className = "q.N" ∧ h.module.path = "m.x_pb2" ∧
          f.modules.filter (·.boundName == rootName h.request.className) = [] := by
    decide +kernel
  obtain ⟨f, found, facts⟩ := (Option.any_eq_true _ _).mp unbound
  obtain ⟨statements, inHandled⟩ := of_decide_eq_true facts
  obtain ⟨h, handled, facts⟩ := List.any_eq_true.mp inHandled
  obtain ⟨className, path, none⟩ := of_decide_eq_true facts
  refine ⟨f, h, found, handled, statements, className, path, ?_⟩
  rintro ⟨m, only, -⟩
  simp [none] at only

/-- Two of three files are mapped to one module and prefer the name that the third one prefers
    too. -/
theorem imports_run_three_files :
    let get (path : String) : Option HttpRule := some ⟨some (.standard .get path), "", "", []⟩
    let first : FileDecl := ⟨"a/x.proto", some "p", none, none, [⟨"L", [], [], []⟩], [],
      [⟨"S", [⟨"A", "L", "L", false, false, get "/a"⟩, ⟨"B", "M", "L", false, false, get "/b"⟩,
        ⟨"C", "N", "L", false, false, get "/c"⟩]⟩], []⟩
    let second : FileDecl := ⟨"b/x.proto", some "p", none, none, [⟨"M", [], [], []⟩], [], [], []⟩
    let third : FileDecl := ⟨"c/x.proto", some "p", none, none, [⟨"N", [], [], []⟩], [], [], []⟩
    let c := (empty "" [("a/x.proto", "m"), ("b/x.proto", "m")]).run
      [.load ⟨"", ["a/x.proto"], [first, second, third]⟩]
    ∃ f, c.targets.get? "a/x.proto" = some f ∧
      f.modules.map (·.importStatement) =
        ["from m import x_pb2 as p", "from c import x_pb2 as p_0"] ∧
      (f.modules.map (·.boundName)).Nodup ∧ ∀ h ∈ f.handled, f.BindsArgument h := by
  intro get first second third c
  have names : (c.targets.get? "a/x.proto").any fun f =>
      f.modules.map (·.importStatement) =
        ["from m import x_pb2 as p", "from c import x_pb2 as p_0"] ∧
        ∀ g ∈ f.handled, ∀ h ∈ f.handled, g.module.path = h.module.path →
          g.module.boundName = h.module.boundName := by
    decide +kernel
  obtain ⟨f, found, facts⟩ := (Option.any_eq_true _ _).mp names
  obtain ⟨statements, same⟩ := of_decide_eq_true facts
  obtain ⟨-, -, distinct, -, exact, -⟩ := imports_run "" [("a/x.proto", "m"), ("b/x.proto", "m")]
    [.load ⟨"", ["a/x.proto"], [first, second, third]⟩] found .adapter false
  exact ⟨f, found, statements, distinct, exact.mpr same⟩

end HttpAdapter
