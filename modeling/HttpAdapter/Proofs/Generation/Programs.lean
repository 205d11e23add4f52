import HttpAdapter.Proofs.Catalog.Linked
import HttpAdapter.Proofs.Catalog.WellNamed
import HttpAdapter.Proofs.Generation.Docstrings
import HttpAdapter.Proofs.Generation.Emission
import HttpAdapter.Proofs.Generation.Imports
import HttpAdapter.Proofs.Generation.NullCharacter

/-!
Where all names are names of the language, a generated module is a program exactly if no null
character stands in its comments, verbs and paths, whatever else they hold.  The lines of a module
form statements piece by piece where the texts in them are legible, `forms_lines`, and files that
are linked in a catalog with such names have such names themselves, `wellNamed_of_linkFile`.
-/

namespace HttpAdapter

open Grammar Text

/-- The texts that the handler of a method shows whatever characters they hold. -/
def LinkedMethod.freeTexts (comments : Comments) (service : Nat) (m : LinkedMethod) :
    List String :=
  comments.lines (methodPath service m.index) ++ m.bindings.flatMap fun b => [b.verb, b.path]

/-- Those that the classes of a service show. -/
def LinkedService.freeTexts (comments : Comments) (s : LinkedService) : List String :=
  comments.lines (servicePath s.index) ++ s.served.flatMap (·.freeTexts comments s.index)

/-- Those that the modules for a file show: the lines of comments, verbs and paths. -/
def TargetFile.freeTexts (f : TargetFile) : List String :=
  f.exposed.flatMap (·.freeTexts f.comments)

variable [Interpreter]

/-- A method with names of the language, and with routes that stay in the docstring of its
    handler. -/
structure LinkedMethod.WellNamed (m : LinkedMethod) : Prop where
  name : isName m.decl.name = true
  request : m.request.WellNamed
  parameters : ∀ b ∈ m.bindings, ∀ p ∈ b.outline.parameters, IsPlain p.1 ∧ IsPlain p.2
  routes : ∀ line ∈ m.bindings.flatMap (·.outline.lines), LeavesReader line

/-- A linked file with names of the language. -/
structure TargetFile.WellNamed (f : TargetFile) : Prop where
  file : f.entry.file.WellNamed
  services : ∀ s ∈ f.services, isName s.name = true
  methods : ∀ s ∈ f.services, ∀ m ∈ s.methods, m.WellNamed

/-- A method whose texts in a module are names and lines of a docstring. -/
structure LinkedMethod.Legible (m : LinkedMethod) : Prop where
  name : isName m.decl.name = true
  className : IsDotted m.request.className
  path : IsDotted m.request.file.module.path
  boundName : isName m.request.file.module.boundName = true
  parameters : ∀ b ∈ m.bindings, ∀ p ∈ b.outline.parameters, IsPlain p.1 ∧ IsPlain p.2
  routes : ∀ line ∈ m.bindings.flatMap (·.outline.lines), LeavesReader line

/-- A linked file whose texts in a module are comments, names and lines of docstrings. -/
structure TargetFile.Legible (f : TargetFile) : Prop where
  source : IsPlain f.name
  package : IsPlain f.entry.file.module.name
  services : ∀ s ∈ f.services, isName s.name = true
  methods : ∀ s ∈ f.services, ∀ m ∈ s.methods, m.Legible

theorem LinkedMethod.WellNamed.legible {m : LinkedMethod} (named : m.WellNamed) : m.Legible where
  name := named.name
  className := named.request.className
  path := named.request.file.path
  boundName := named.request.file.boundName
  parameters := named.parameters
  routes := named.routes

theorem TargetFile.WellNamed.legible {f : TargetFile} (named : f.WellNamed) : f.Legible where
  source := not_mem_breaks_of_isNamedFile named.file.decl.file
  package := isPlain_of_isIdentifier (isIdentifier_of_isName named.file.name)
  services := named.services
  methods := fun s member m method => (named.methods s member m method).legible

instance (line : String) : Decidable (LeavesReader line) :=
  inferInstanceAs (Decidable (readLiteral .start (line.toList ++ ['\n']) = some .start))

instance (m : LinkedMethod) : Decidable m.Legible :=
  decidable_of_iff (isName m.decl.name = true ∧ IsDotted m.request.className ∧
      IsDotted m.request.file.module.path ∧ isName m.request.file.module.boundName = true ∧
      (∀ b ∈ m.bindings, ∀ p ∈ b.outline.parameters, IsPlain p.1 ∧ IsPlain p.2) ∧
      ∀ line ∈ m.bindings.flatMap (·.outline.lines), LeavesReader line)
    ⟨fun ⟨name, className, path, boundName, parameters, routes⟩ =>
        ⟨name, className, path, boundName, parameters, routes⟩,
      fun legible => ⟨legible.name, legible.className, legible.path, legible.boundName,
        legible.parameters, legible.routes⟩⟩

instance (f : TargetFile) : Decidable f.Legible :=
  decidable_of_iff (IsPlain f.name ∧ IsPlain f.entry.file.module.name ∧
      (∀ s ∈ f.services, isName s.name = true) ∧
      ∀ s ∈ f.services, ∀ m ∈ s.methods, m.Legible)
    ⟨fun ⟨source, package, services, methods⟩ => ⟨source, package, services, methods⟩,
      fun legible => ⟨legible.source, legible.package, legible.services, legible.methods⟩⟩

section Lines

omit [Interpreter] in
theorem isName_className {s : LinkedService} (named : isName s.name = true) (kind : ModuleKind) :
    isName (s.className kind) = true := by
  cases kind with
  | adapter => exact isName_enclosed (c := 'H') named rfl rfl (by decide) (by decide)
  | router => exact isName_enclosed (c := '_') named rfl rfl isForeign_underscore (by decide)

variable {comments : Comments}

/-- The class of a service forms a statement. -/
theorem forms_classLines {s : LinkedService} (named : isName s.name = true)
    (methods : ∀ m ∈ s.methods, m.Legible) (kind : ModuleKind) (requestContext : Bool) :
    Forms [] (s.classLines comments requestContext (s.className kind)) IsStatement := by
  refine forms_class (isName_className named kind) (Forms.flatMap ?_)
  intro m served
  have own := methods m (List.mem_of_mem_filter served)
  have handler : Forms [4] (m.lines comments requestContext s.index) IsStatement :=
    forms_handler (h := m.outline comments s.index) own.name own.className own.routes requestContext
  exact handler.statements.blank

/-- What stands in front of the class of a service forms statements. -/
theorem forms_dispatchOf {s : LinkedService} (named : isName s.name = true)
    (methods : ∀ m ∈ s.methods, m.Legible) (kind : ModuleKind) :
    Forms [] (s.dispatch comments kind) AreStatements := by
  cases kind with
  | adapter => exact Forms.nil
  | router =>
      refine (forms_dispatch (s := s.outline comments) named ?_).statements.blank.blank
      intro line member
      obtain ⟨m, served, rfl⟩ := List.mem_map.mp member
      exact scans_routeLine named (methods m (List.mem_of_mem_filter served)).name

theorem forms_service {s : LinkedService} (named : isName s.name = true)
    (methods : ∀ m ∈ s.methods, m.Legible) (kind : ModuleKind) (requestContext : Bool) :
    Forms [] (s.lines comments requestContext kind) AreStatements :=
  (forms_dispatchOf named methods kind).append
    (forms_classLines named methods kind requestContext).statements.blank.blank
    fun _ _ => AreStatements.append

/-- The comments in front of a module are as good as empty lines. -/
theorem forms_header {f : TargetFile} (legible : f.Legible) {lines : List String}
    (forms : Forms [] lines AreStatements) :
    Forms [] ((f.outline false).headerLines ++ lines) AreStatements := by
  have inSource : IsPlain ("# source: " ++ f.name) := isPlain_append (by decide) legible.source
  have inPackage : IsPlain ("# package: " ++ f.entry.file.module.name) :=
    isPlain_append (by decide) legible.package
  have package := Forms.comment (by rw [String.toList_append]; rfl) inPackage.ne_lineEnd forms
  have source := Forms.comment (by rw [String.toList_append]; rfl) inSource.ne_lineEnd package
  exact Forms.comment rfl (ne_lineEnd_of_all rfl) source

/-- The lines in front of the imports form statements. -/
theorem forms_preamble {f : TargetFile} (legible : f.Legible) (kind : ModuleKind) :
    Forms [] (f.preamble kind) AreStatements := by
  refine forms_header legible ?_
  cases kind with
  | adapter => exact (forms_importCodec.cons Forms.nil.blank).ofBlock
  | router =>
      exact (forms_importTyping.cons
        (forms_importBuilder.cons Forms.nil.blank).ofBlock.blank).ofBlock

theorem forms_interlude (kind : ModuleKind) : Forms [] (interlude kind) AreStatements := by
  cases kind with
  | adapter => exact Forms.nil
  | router =>
      have functions := forms_withRoutes.cons forms_withSwagger.statements.blank.blank
      have options := forms_options.cons functions.ofBlock.blank.blank
      exact (forms_handlerType.cons options.ofBlock.blank.blank).ofBlock.blank.blank

/-- The modules that a legible file imports have names too. -/
theorem isDotted_of_mem_modules {f : TargetFile} (legible : f.Legible) {m : ImportedModule}
    (member : m ∈ f.modules) : IsDotted m.path ∧ isName m.boundName = true := by
  obtain ⟨h, handled, rfl⟩ := List.mem_map.mp ((distinct_modules f).subset member)
  obtain ⟨s, exposed, served⟩ := List.mem_flatMap.mp handled
  have own := legible.methods s (List.mem_of_mem_filter exposed) h (List.mem_of_mem_filter served)
  exact ⟨own.path, own.boundName⟩

/-- The lines of a module form statements. -/
theorem forms_lines {f : TargetFile} (legible : f.Legible) (kind : ModuleKind)
    (requestContext : Bool) : Forms [] (f.lines kind requestContext) AreStatements := by
  have imports : Forms [] (f.modules.map (·.importStatement)) AreStatements := by
    rw [← List.flatMap_singleton' (f.modules.map (·.importStatement))]
    refine Forms.flatMap fun line member => ?_
    obtain ⟨m, inModules, rfl⟩ := List.mem_map.mp member
    obtain ⟨path, bound⟩ := isDotted_of_mem_modules legible inModules
    exact (forms_importStatement path bound).statements
  have services : Forms [] (f.exposed.flatMap (·.lines f.comments requestContext kind))
      AreStatements := by
    refine Forms.flatMap fun s exposed => ?_
    have member := List.mem_of_mem_filter exposed
    exact forms_service (legible.services s member) (legible.methods s member) kind requestContext
  have both {ts us : List Token} (first : AreStatements ts) (second : AreStatements us) :=
    first.append second
  exact (((forms_preamble legible kind).append imports fun _ _ => both).append
    (forms_interlude kind) fun _ _ => both).append services fun _ _ => both

theorem nullFree_methodLines {m : LinkedMethod} (legible : m.Legible) (service : Nat)
    (requestContext : Bool) :
    NullFree (m.lines comments requestContext service) ↔
      NullFree (m.freeTexts comments service) := by
  have routes : NullFree (m.bindings.flatMap (·.outline.lines)) ↔
      NullFree (m.bindings.flatMap fun b => [b.verb, b.path]) := by
    rw [nullFree_flatMap, nullFree_flatMap]
    exact forall₂_congr fun b binding => nullFree_route (legible.parameters b binding)
  have handler : NullFree (m.lines comments requestContext service) ↔
      NullFree (m.outline comments service).comment ∧
        NullFree (m.bindings.flatMap (·.outline.lines)) :=
    nullFree_handler legible.name legible.className requestContext
  rw [handler, routes, LinkedMethod.freeTexts, nullFree_append]
  rfl

theorem nullFree_service {s : LinkedService} (named : isName s.name = true)
    (methods : ∀ m ∈ s.methods, m.Legible) (kind : ModuleKind) (requestContext : Bool) :
    NullFree (s.lines comments requestContext kind) ↔ NullFree (s.freeTexts comments) := by
  have dispatch : NullFree (s.dispatch comments kind) := by
    cases kind with
    | adapter => exact nullFree_nil
    | router =>
        have table : NullFree (s.served.map fun m =>
            routeLine s.name (m.outline comments s.index)) := by
          rw [NullFree, List.forall_mem_map]
          intro m served
          exact null_not_mem_routeLine named (methods m (List.mem_of_mem_filter served)).name
        have lines := nullFree_dispatch (s := s.outline comments) named table
        simpa [LinkedService.dispatch] using lines
  have handlers :
      NullFree (s.served.flatMap fun m => "" :: m.lines comments requestContext s.index) ↔
        NullFree (s.served.flatMap (·.freeTexts comments s.index)) := by
    rw [nullFree_flatMap, nullFree_flatMap]
    refine forall₂_congr fun m served => ?_
    have own := methods m (List.mem_of_mem_filter served)
    rw [nullFree_cons, nullFree_methodLines own]
    simp
  have head := nullFree_class (s := s.outline comments) (isName_className named kind)
  rw [LinkedService.lines, LinkedService.classLines, LinkedService.freeTexts, nullFree_append,
    nullFree_cons, nullFree_cons, nullFree_append, nullFree_append, head, handlers]
  simp [dispatch, LinkedService.outline]

/-- A module of a legible file is as free of the null character as what it shows. -/
theorem nullFree_lines {f : TargetFile} (legible : f.Legible) (kind : ModuleKind)
    (requestContext : Bool) : NullFree (f.lines kind requestContext) ↔ NullFree f.freeTexts := by
  have preamble : NullFree (f.preamble kind) := by
    have source := null_not_mem_of_isPlain legible.source
    have package := null_not_mem_of_isPlain legible.package
    rw [TargetFile.preamble, nullFree_append, nullFree_header]
    exact ⟨by simp [TargetFile.outline, source, package], nullFree_runtimeImports kind⟩
  have imports : NullFree (f.modules.map (·.importStatement)) := by
    rw [NullFree, List.forall_mem_map]
    intro m inModules
    obtain ⟨path, bound⟩ := isDotted_of_mem_modules legible inModules
    exact null_not_mem_importStatement path bound
  have services : NullFree (f.exposed.flatMap (·.lines f.comments requestContext kind)) ↔
      NullFree f.freeTexts := by
    rw [TargetFile.freeTexts, nullFree_flatMap, nullFree_flatMap]
    refine forall₂_congr fun s exposed => ?_
    have member := List.mem_of_mem_filter exposed
    exact nullFree_service (legible.services s member) (legible.methods s member) kind _
  rw [TargetFile.lines, nullFree_append, nullFree_append, nullFree_append, services]
  simp [preamble, imports, nullFree_interlude]

/-- A module of a legible file is a program exactly if what it shows is free of the null
    character. -/
theorem TargetFile.Legible.isProgram_iff {f : TargetFile} (legible : f.Legible) (kind : ModuleKind)
    (requestContext : Bool) :
    Grammar.isProgram (f.program kind requestContext) = true ↔ NullFree f.freeTexts := by
  have free := not_congr (null_mem_program f kind requestContext)
  rw [TargetFile.program, toList_textOfLines] at free ⊢
  rw [(forms_lines legible kind requestContext).isProgram_iff, free, not_not]
  exact nullFree_lines legible kind requestContext

end Lines

namespace Catalog

section Linking

variable {c : Catalog} {package : String}

end Linking

variable {importPrefix : String} {packageMap : Table String} {commands : List Command}

end Catalog

section Modules

variable {files : List TargetFile}

/-- All that can be said against a module for a legible file is that it shows a null character. -/
theorem programFaults_of_legible {f : TargetFile} (legible : f.Legible) (kind : ModuleKind)
    (requestContext : Bool) : f.programFaults kind requestContext =
      if NullFree f.freeTexts then []
      else [.invalidProgram (outputFile kind f.name) (Interpreter.complaint (outputFile kind f.name)
        (String.ofList (f.program kind requestContext)))] := by
  have inName : '\x00' ∉ (outputFile kind f.name).toList := by
    intro member
    have inSource := mem_of_mem_outputFile member (by decide) (by decide) (by cases kind <;> decide)
    exact null_not_mem_of_isPlain legible.source inSource
  have program := legible.isProgram_iff kind requestContext
  rw [TargetFile.programFaults]
  by_cases free : NullFree f.freeTexts
  · simp [inName, program.mpr free, free]
  · have full : f.exposed.isEmpty = false := by
      cases empty : f.exposed with
      | nil => exact absurd (by simp [TargetFile.freeTexts, empty]) free
      | cons s exposed => rfl
    simp [full, inName, mt program.mp free, free]

/-- Legible files without it have all modules of a kind that there is anything to put into. -/
theorem generateKind_eq_of_legible (legible : ∀ f ∈ files, f.Legible)
    (free : ∀ f ∈ files, NullFree f.freeTexts) (kind : ModuleKind) (requestContext : Bool) :
    generateKind kind requestContext files =
      .ok ((files.filter (!·.exposed.isEmpty)).map (·.moduleFile kind requestContext)) := by
  have none : files.flatMap (·.programFaults kind requestContext) = [] := by
    rw [List.flatMap_eq_nil_iff]
    intro f member
    rw [programFaults_of_legible (legible f member), if_pos (free f member)]
  obtain ⟨modules, success⟩ :=
    (reportsFirst_generateKind requestContext files kind).eq_ok_iff.mpr none
  rw [success, eq_of_generateKind requestContext files success]

theorem generateAll_eq_of_legible (legible : ∀ f ∈ files, f.Legible)
    (free : ∀ f ∈ files, NullFree f.freeTexts) (requestContext withRouter : Bool) :
    generateAll requestContext withRouter files =
      .ok ((files.filter (!·.exposed.isEmpty)).map (·.moduleFile .adapter requestContext) ++
        if withRouter then
          (files.filter (!·.exposed.isEmpty)).map (·.moduleFile .router requestContext)
        else []) := by
  rw [generateAll, generateKind_eq_of_legible legible free .adapter]
  cases withRouter with
  | false => simp [bind, Except.bind, pure, Except.pure]
  | true =>
      rw [generateKind_eq_of_legible legible free .router]
      rfl

end Modules

end HttpAdapter
