import HttpAdapter.Generation
import HttpAdapter.Proofs.Except

/-!
The lines of a generated module.  Nothing that comes from a linked file is missing from the outline
of its modules, so laying them out succeeds, and the lines are those of the head, then those of
each service that appears: `moduleText_eq`.
-/

namespace HttpAdapter

section Lines

variable (comments : Comments) (requestContext : Bool)

/-- The lines in the docstring of the handler of a method, declared in a service of that number. -/
def LinkedMethod.docLines (service : Nat) (m : LinkedMethod) : List String :=
  (m.outline comments service).comment.map (fun line => "        " ++ escapeDocstring line) ++
    m.bindings.flatMap (·.outline.lines)

/-- The lines of the handler of a method. -/
def LinkedMethod.lines (service : Nat) (m : LinkedMethod) : List String :=
  (m.outline comments service).lines requestContext (m.bindings.flatMap (·.outline.lines))

/-- The lines of the class of a service. -/
def LinkedService.classLines (className : String) (s : LinkedService) : List String :=
  (s.outline comments).headLines className ++
    s.served.flatMap fun m => "" :: m.lines comments requestContext s.index

/-- The class of a service in a module of that kind. -/
def LinkedService.className (kind : ModuleKind) (s : LinkedService) : String :=
  match kind with
  | .adapter => "HTTP" ++ s.name ++ "Server"
  | .router => "_HTTP" ++ s.name ++ "Server"

/-- The lines in front of the class of a service. -/
def LinkedService.dispatch (kind : ModuleKind) (s : LinkedService) : List String :=
  match kind with
  | .adapter => []
  | .router =>
      "" :: "" :: (s.outline comments).dispatchLines
        (s.served.map fun m => routeLine s.name (m.outline comments s.index))

/-- The lines of a service in a module of that kind. -/
def LinkedService.lines (kind : ModuleKind) (s : LinkedService) : List String :=
  s.dispatch comments kind ++ "" :: "" :: s.classLines comments requestContext (s.className kind)

end Lines

/-- The comments of a file. -/
def TargetFile.comments (f : TargetFile) : Comments := .ofLocations f.entry.file.decl.locations

/-- The lines in front of those that import modules of message classes. -/
def TargetFile.preamble (kind : ModuleKind) (f : TargetFile) : List String :=
  (f.outline false).headerLines ++ runtimeImports kind

/-- The lines of a module for a file. -/
def TargetFile.lines (kind : ModuleKind) (requestContext : Bool) (f : TargetFile) : List String :=
  f.preamble kind ++ f.modules.map (·.importStatement) ++ interlude kind ++
    f.exposed.flatMap (·.lines f.comments requestContext kind)

theorem toList_textOfLines (lines : List String) :
    (textOfLines lines).toList = (lines.map (·.toList)).flatMap (· ++ ['\n']) := by
  induction lines with
  | nil => rfl
  | cons line lines ih =>
      rw [textOfLines, List.map_cons, String.join_cons, ← textOfLines, String.toList_append, ih]
      simp

theorem render_handler (fault : String → Fault) (comments : Comments) (requestContext : Bool)
    (service : Nat) (m : LinkedMethod) :
    (m.outline comments service).render fault requestContext =
      .ok (m.lines comments requestContext service) := by
  have routes : (m.outline comments service).routes.mapM (entryOr fault "method") =
      .ok (m.bindings.map (·.outline)) := by
    simp only [LinkedMethod.outline, List.mapM_map]
    exact mapM_eq_ok_map fun _ _ => rfl
  rw [HandlerOutline.render, routes, LinkedMethod.lines, ← List.flatMap_map]
  rfl

theorem render_service (fault : String → Fault) (comments : Comments) (requestContext : Bool)
    (className : String) (s : LinkedService) :
    (s.outline comments).render fault requestContext className =
      .ok (s.classLines comments requestContext className) := by
  unfold ServiceOutline.render
  rw [LinkedService.outline, List.mapM_map,
    mapM_eq_ok_map (g := fun m => "" :: m.lines comments requestContext s.index)]
  · rw [LinkedService.classLines, List.flatMap_def]
    rfl
  · intro m _
    simp only [Function.comp_apply, entryOr, bind, Except.bind, render_handler]
    rfl

theorem adapterService_eq (fault : String → Fault) (comments : Comments) (requestContext : Bool)
    (s : LinkedService) :
    adapterService fault requestContext (some (s.outline comments)) =
      .ok (s.lines comments requestContext .adapter) := by
  simp only [adapterService, entryOr, bind, Except.bind, render_service]
  rfl

theorem routerService_eq (fault : String → Fault) (comments : Comments) (requestContext : Bool)
    (s : LinkedService) :
    routerService fault requestContext (some (s.outline comments)) =
      .ok (s.lines comments requestContext .router) := by
  have handlers : (s.outline comments).handlers.mapM (entryOr fault "name") =
      .ok (s.served.map fun m => m.outline comments s.index) := by
    simp only [LinkedService.outline, List.mapM_map]
    exact mapM_eq_ok_map fun _ _ => rfl
  simp only [routerService, entryOr, bind, Except.bind, handlers, render_service, List.map_map]
  rfl

theorem render_outline (f : TargetFile) (kind : ModuleKind) (requestContext : Bool) :
    (f.outline requestContext).render kind = .ok (f.lines kind requestContext) := by
  have laid {lay : Option ServiceOutline → Except Fault (List String)}
      (each : ∀ s : LinkedService, lay (some (s.outline f.comments)) =
        .ok (s.lines f.comments requestContext kind)) :
      (f.outline requestContext).services.mapM lay =
        .ok (f.exposed.map (·.lines f.comments requestContext kind)) := by
    rw [TargetFile.outline, List.mapM_map]
    exact mapM_eq_ok_map fun s _ => each s
  rw [TargetFile.lines, List.flatMap_def]
  cases kind with
  | adapter =>
      have services := laid (adapterService_eq (.missingEntry f.name .adapter) _ requestContext)
      change (do
        let services ← (f.outline requestContext).services.mapM
          (adapterService (.missingEntry f.name .adapter) requestContext)
        return (f.outline requestContext).head .adapter ++ services.flatten) = _
      rw [services]
      simp [bind, Except.bind, pure, Except.pure, ModuleOutline.head,
        TargetFile.preamble, TargetFile.outline, ModuleOutline.headerLines]
  | router =>
      have services := laid (routerService_eq (.missingEntry f.name .router) _ requestContext)
      change (do
        let services ← (f.outline requestContext).services.mapM
          (routerService (.missingEntry f.name .router) requestContext)
        return (f.outline requestContext).head .router ++ services.flatten) = _
      rw [services]
      simp [bind, Except.bind, pure, Except.pure, ModuleOutline.head,
        TargetFile.preamble, TargetFile.outline, ModuleOutline.headerLines]

/-- A file with a service that appears has a module of each kind, made of these lines. -/
theorem moduleText_eq {f : TargetFile} (full : f.exposed ≠ []) (kind : ModuleKind)
    (requestContext : Bool) :
    f.moduleText kind requestContext = .ok (textOfLines (f.lines kind requestContext)) := by
  have some : f.exposed.isEmpty = false := by simpa using full
  rw [TargetFile.moduleText, some, ModuleOutline.text, render_outline]
  rfl

theorem infix_flatMap_of_mem {α : Type} {as : List α} {a : α} (lines : α → List String)
    (member : a ∈ as) : lines a <:+: as.flatMap lines := by
  rw [List.flatMap_def]
  exact List.infix_of_mem_flatten (List.mem_map_of_mem member)

/-- The class of a service stands in the module. -/
theorem classLines_infix_lines {f : TargetFile} {s : LinkedService} (exposed : s ∈ f.exposed)
    (kind : ModuleKind) (requestContext : Bool) :
    s.classLines f.comments requestContext (s.className kind) <:+: f.lines kind requestContext := by
  have own : s.classLines f.comments requestContext (s.className kind) <:+:
      s.lines f.comments requestContext kind := by
    refine ⟨s.dispatch f.comments kind ++ ["", ""], [], ?_⟩
    simp [LinkedService.lines]
  have service := infix_flatMap_of_mem (·.lines f.comments requestContext kind) exposed
  exact (own.trans service).trans List.infix_append_right

/-- The handler of a method stands in the module. -/
theorem handlerLines_infix_lines {f : TargetFile} {s : LinkedService} (exposed : s ∈ f.exposed)
    {m : LinkedMethod} (served : m ∈ s.served) (kind : ModuleKind) (requestContext : Bool) :
    m.lines f.comments requestContext s.index <:+: f.lines kind requestContext := by
  have own : m.lines f.comments requestContext s.index <:+:
      s.classLines f.comments requestContext (s.className kind) := by
    have handler := infix_flatMap_of_mem
      (fun m : LinkedMethod => "" :: m.lines f.comments requestContext s.index) served
    exact (List.infix_cons List.infix_rfl).trans (handler.trans List.infix_append_right)
  exact own.trans (classLines_infix_lines exposed kind requestContext)

end HttpAdapter
