import HttpAdapter.Proofs.Catalog.Agreement
import HttpAdapter.Proofs.Catalog.Linked
import HttpAdapter.Proofs.Generation.Layout

/-!
A generated module, block by block.  Behind the head and the import lines stands one block for each
service with an eligible method, and in it one for each of those methods, with the routes of its
rules and the variables of their paths: `emits_of_linkFile`.  Nothing else of the linked file
counts, so that files with the same blocks have the same text: `exists_blocks`.
-/

namespace HttpAdapter

open Text

/-- The methods of a file that get a handler, with their numbers. -/
def FileDecl.served (f : FileDecl) : List (MethodDecl × Nat) := f.exposed.flatMap (·.1.served)

namespace Catalog

section Blocks

variable (c : Catalog) (package : String) (comments : Comments) (requestContext : Bool)

/-- The line of a variable of a path: its name, and the expression for its value. -/
def VariableLine (request : MessageEntry) (name line : String) : Prop :=
  ∃ fields, c.fieldPath request name = .ok fields ∧
    line = "            " ++ name ++ " -> " ++ FieldPath.access fields argumentName

/-- The lines of a rule: an empty one, that of its route, and one for each variable of its path. -/
def RouteBlock (request : MessageEntry) (r : HttpRule) (block : List String) : Prop :=
  ∃ b parameters, r.binding = .ok b ∧
    List.Forall₂ (c.VariableLine request) (pathVariables b.path) parameters ∧
    block = "" :: ("        " ++ upper b.verb ++ " " ++ escapeDocstring b.path) :: parameters

/-- The lines of a method in a service of that number: an empty one, and those of the handler, with
    the lines of each rule. -/
def HandlerBlock (service : Nat) (d : MethodDecl × Nat) (block : List String) : Prop :=
  ∃ request routes, c.message package d.1.inputType = .ok request ∧
    List.Forall₂ (c.RouteBlock request) d.1.rules routes ∧
    block = "" :: HandlerOutline.lines
      ⟨d.1.name, request.className, comments.lines (methodPath service d.2), []⟩ requestContext
      routes.flatten

/-- The module that the class of the request of a method is in. -/
def RequestModule (d : MethodDecl × Nat) (m : ImportedModule) : Prop :=
  ∃ request, c.message package d.1.inputType = .ok request ∧ m = request.file.module

end Blocks

end Catalog

/-- The line of a method in the table of routes of its service. -/
def routeEntry (service : String) (d : MethodDecl × Nat) : String :=
  "            \"" ++ routeKey service d.1.name ++ "\": self.srv." ++ d.1.name ++ ","

/-- The lines of a service in a module of that kind, with the lines of its handlers.  In a router
    the class that dispatches to the service comes first. -/
def serviceBlock (kind : ModuleKind) (comments : Comments) (d : ServiceDecl × Nat)
    (handlers : List (List String)) : List String :=
  let service : ServiceOutline := ⟨d.1.name, comments.lines (servicePath d.2), []⟩
  let server (name : String) := "" :: "" :: service.headLines name ++ handlers.flatten
  match kind with
  | .adapter => server service.adapterClass
  | .router =>
      "" :: "" :: service.dispatchLines (d.1.served.map (routeEntry d.1.name)) ++
        server service.routedClass

/-- The modules generated for a file that is linked in the catalog: there is none without an
    eligible method, and otherwise both hold the same handlers, one for each eligible method in
    the block of its service. -/
structure TargetFile.Emits (f : TargetFile) (c : Catalog) : Prop where
  nothing : ∀ kind requestContext,
    f.moduleText kind requestContext = .error (.nothingToGenerate f.name) ↔
      ¬ f.entry.file.decl.hasEligible
  modules : ∃ modules,
    List.Forall₂ (c.RequestModule f.entry.file.decl.packageName) f.entry.file.decl.served modules ∧
    f.modules = distinctModules modules
  blocks : ∀ requestContext, ∃ handlers,
    List.Forall₂ (fun s => List.Forall₂
      (c.HandlerBlock f.entry.file.decl.packageName f.comments requestContext s.2) s.1.served)
      f.entry.file.decl.exposed handlers ∧
    (f.entry.file.decl.hasEligible → ∀ kind, f.moduleText kind requestContext =
      .ok (textOfLines (f.preamble kind ++ f.modules.map (·.importStatement) ++ interlude kind ++
        (List.zipWith (serviceBlock kind f.comments) f.entry.file.decl.exposed handlers).flatten)))

theorem zipWith_map_eq_map {α β γ δ : Type} {R : α → β → Prop} {as : List α} {bs : List β}
    {f : α → γ → δ} {g : β → γ} {h : β → δ} (related : List.Forall₂ R as bs)
    (each : ∀ a b, R a b → f a (g b) = h b) : List.zipWith f as (bs.map g) = bs.map h := by
  induction related with
  | nil => rfl
  | cons first _ ih => rw [List.map_cons, List.zipWith_cons_cons, each _ _ first, ih, List.map_cons]

namespace Catalog

section Emits

variable {c : Catalog} {package : String}

theorem routeBlock_of_linksRule {request : MessageEntry} {r : HttpRule} {b : LinkedBinding}
    (links : c.LinksRule request r b) : c.RouteBlock request r b.outline.lines := by
  refine ⟨⟨b.verb, b.path, b.body, b.responseBody⟩, _, links.binding, ?_, rfl⟩
  change List.Forall₂ _ (pathVariables b.path) (List.map _ (List.map _ b.parameters))
  rw [List.map_map, List.forall₂_map_right_iff]
  refine links.parameters.imp fun name p linked => ⟨p.fields, linked.fields, ?_⟩
  rw [← linked.name]
  rfl

theorem handlerBlock_of_linksMethod (comments : Comments) (requestContext : Bool) (service : Nat)
    {d : MethodDecl × Nat} {m : LinkedMethod} (links : c.LinksMethod package d m) :
    c.HandlerBlock package comments requestContext service d
      ("" :: m.lines comments requestContext service) := by
  refine ⟨m.request, m.bindings.map (·.outline.lines), links.request, ?_, ?_⟩
  · rw [List.forall₂_map_right_iff]
    exact links.bindings.imp fun _ _ => routeBlock_of_linksRule
  · rw [← links.decl, ← links.index, ← List.flatMap_def]
    rfl

/-- The lines of a linked service are those of its declaration, with the lines of the handlers of
    its eligible methods. -/
theorem lines_of_linksService (comments : Comments) (requestContext : Bool) (kind : ModuleKind)
    {d : ServiceDecl × Nat} {s : LinkedService} (links : c.LinksService package d s) :
    s.lines comments requestContext kind = serviceBlock kind comments d
      (s.served.map fun m => "" :: m.lines comments requestContext s.index) := by
  have table : s.served.map (fun m => routeLine s.name (m.outline comments s.index)) =
      d.1.served.map (routeEntry d.1.name) := by
    rw [← List.forall₂_eq_eq_eq, List.forall₂_map_left_iff, List.forall₂_map_right_iff]
    refine links.served.flip.imp fun linked m method => ?_
    have decl : linked.decl = m.1 := method.decl
    delta routeLine routeEntry
    rw [LinkedMethod.outline, links.name, decl]
  cases kind with
  | adapter =>
      simp only [LinkedService.lines, LinkedService.dispatch, LinkedService.classLines,
        LinkedService.className, LinkedService.outline, links.name, links.index, List.flatMap_def]
      rfl
  | router =>
      simp only [LinkedService.lines, LinkedService.dispatch, table]
      simp only [LinkedService.classLines, LinkedService.className, LinkedService.outline,
        links.name, links.index, List.flatMap_def]
      rfl

theorem emits_of_linkFile {entry : FileEntry} {f : TargetFile}
    (success : c.linkFile entry = .ok f) : f.Emits c := by
  have exposed := forall₂_exposed success
  rw [← (forall₂_linkFile success).1] at exposed
  refine ⟨?_, ?_, ?_⟩
  · intro kind requestContext
    rw [← exposed_of_linkFile success]
    by_cases full : f.exposed = []
    · simp [TargetFile.moduleText, full]
    · rw [moduleText_eq full]
      simp [full]
  · refine ⟨_, ?_, rfl⟩
    rw [List.forall₂_map_right_iff]
    refine List.rel_flatMap exposed fun d s service => service.served.imp fun m linked method => ?_
    exact ⟨linked.request, method.request, rfl⟩
  · intro requestContext
    refine ⟨f.exposed.map fun s => s.served.map fun m =>
      "" :: m.lines f.comments requestContext s.index, ?_, ?_⟩
    · rw [List.forall₂_map_right_iff]
      refine exposed.imp fun d s service => ?_
      rw [List.forall₂_map_right_iff]
      refine service.served.imp fun m linked method => ?_
      rw [service.index]
      exact handlerBlock_of_linksMethod f.comments requestContext d.2 method
    · intro eligible kind
      have full : f.exposed ≠ [] := by
        rw [← exposed_of_linkFile success] at eligible
        simpa using eligible
      rw [moduleText_eq full, TargetFile.lines, List.flatMap_def]
      rw [zipWith_map_eq_map exposed fun d s service =>
        (lines_of_linksService f.comments requestContext kind service).symm]

end Emits

end Catalog

/-- Two services that appear show the same: their names, their numbers, and their handlers. -/
structure ServiceDecl.ShowsAs (s t : ServiceDecl × Nat) : Prop where
  name : s.1.name = t.1.name
  number : s.2 = t.2
  served : s.1.served = t.1.served

/-- Two files show the same services, and say the same about them and about their handlers. -/
structure FileDecl.ShowsAs (f g : FileDecl) : Prop where
  packageName : f.packageName = g.packageName
  services : List.Forall₂ ServiceDecl.ShowsAs f.exposed g.exposed
  comments : ∀ s ∈ f.exposed, ∀ path, (path = servicePath s.2 ∨
      ∃ m ∈ s.1.served, path = methodPath s.2 m.2) →
    (Comments.ofLocations f.locations).lines path = (Comments.ofLocations g.locations).lines path

theorem FileDecl.ShowsAs.refl (f : FileDecl) : f.ShowsAs f :=
  ⟨rfl, List.forall₂_same.mpr fun _ _ => ⟨rfl, rfl, rfl⟩, fun _ _ _ _ => rfl⟩

theorem FileDecl.ShowsAs.served {f g : FileDecl} (shows : f.ShowsAs g) : f.served = g.served := by
  rw [FileDecl.served, FileDecl.served, ← List.forall₂_eq_eq_eq]
  refine List.rel_flatMap shows.services fun s t same => ?_
  rw [same.served]
  exact List.forall₂_same.mpr fun m _ => rfl

theorem FileDecl.ShowsAs.hasEligible {f g : FileDecl} (shows : f.ShowsAs g) :
    f.hasEligible = g.hasEligible := by
  rw [Bool.eq_iff_iff, hasEligible_iff, hasEligible_iff, ← List.length_pos_iff,
    ← List.length_pos_iff, shows.services.length_eq]

theorem serviceBlock_congr {comments comments' : Comments} {s t : ServiceDecl × Nat}
    (shows : ServiceDecl.ShowsAs s t)
    (said : comments.lines (servicePath s.2) = comments'.lines (servicePath s.2))
    (kind : ModuleKind) : serviceBlock kind comments s = serviceBlock kind comments' t := by
  funext handlers
  simp only [serviceBlock, said, ← shows.name, ← shows.number, ← shows.served]

theorem zipWith_congr_left {α β γ δ : Type} {f : α → γ → δ} {g : β → γ → δ} {as : List α}
    {bs : List β} (same : List.Forall₂ (fun a b => f a = g b) as bs) (cs : List γ) :
    List.zipWith f as cs = List.zipWith g bs cs := by
  induction same generalizing cs with
  | nil => rfl
  | cons first _ ih =>
      cases cs with
      | nil => rfl
      | cons c cs => rw [List.zipWith_cons_cons, List.zipWith_cons_cons, first, ih]

theorem preamble_congr {f g : TargetFile} (name : f.name = g.name)
    (preferred : f.entry.file.module.name = g.entry.file.module.name) (kind : ModuleKind) :
    f.preamble kind = g.preamble kind := by
  simp only [TargetFile.preamble, ModuleOutline.headerLines, TargetFile.outline, name, preferred]

section Agreement

variable {R : SourceFile → SourceFile → Prop} {c d : Catalog} (alike : ∀ s t, R s t → s.Alike t)
  (boundName : ∀ s t, R s t → s.module.boundName = t.module.boundName)
  (messages : ∀ name, Option.Rel (MessageEntry.Agrees R) (c.messages.get? name)
    (d.messages.get? name))

include boundName in
theorem MessageEntry.Agrees.className {m n : MessageEntry} (agrees : m.Agrees R n) :
    m.className = n.className := by
  rw [MessageEntry.className, MessageEntry.className, boundName _ _ agrees.file, agrees.outers,
    agrees.decl]

namespace Catalog

omit alike boundName messages

include messages in
/-- The modules that methods take their requests from are those of related files. -/
theorem forall₂_requestModule {package : String} {ds : List (MethodDecl × Nat)}
    {ms ns : List ImportedModule} (taken : List.Forall₂ (c.RequestModule package) ds ms)
    (taken' : List.Forall₂ (d.RequestModule package) ds ns) :
    List.Forall₂ (fun m n => ∃ s t, R s t ∧ m = s.module ∧ n = t.module) ms ns := by
  refine forall₂_of_common taken taken' ?_
  rintro m _ _ ⟨request, found, rfl⟩ ⟨request', found', rfl⟩
  have agrees := (sameResult_message messages _ _).of_ok found found'
  exact ⟨request.file, request'.file, agrees.file, rfl, rfl⟩

include alike messages

theorem routeBlock_eq {m n : MessageEntry} (agrees : m.Agrees R n) {r : HttpRule}
    {block block' : List String} (routed : c.RouteBlock m r block)
    (routed' : d.RouteBlock n r block') : block = block' := by
  obtain ⟨b, lines, bound, first, rfl⟩ := routed
  obtain ⟨b', lines', bound', second, rfl⟩ := routed'
  rw [bound, Except.ok.injEq] at bound'
  subst bound'
  have same : lines = lines' := by
    rw [← List.forall₂_eq_eq_eq]
    refine forall₂_of_common first second ?_
    rintro name _ _ ⟨fields, led, rfl⟩ ⟨fields', led', rfl⟩
    rw [access_eq_of_agrees alike
      ((sameResult_fieldPath alike messages agrees name).of_ok led led')]
  rw [same]

include boundName

/-- The handler of a method has the same lines in catalogs that agree. -/
theorem handlerBlock_eq {package : String} {comments comments' : Comments} {requestContext : Bool}
    {service : Nat} {m : MethodDecl × Nat} {block block' : List String}
    (said : comments.lines (methodPath service m.2) = comments'.lines (methodPath service m.2))
    (handled : c.HandlerBlock package comments requestContext service m block)
    (handled' : d.HandlerBlock package comments' requestContext service m block') :
    block = block' := by
  obtain ⟨request, routes, found, first, rfl⟩ := handled
  obtain ⟨request', routes', found', second, rfl⟩ := handled'
  have agrees := (sameResult_message messages _ _).of_ok found found'
  have same : routes = routes' := by
    rw [← List.forall₂_eq_eq_eq]
    exact forall₂_of_common first second fun _ _ _ => routeBlock_eq alike messages agrees
  rw [same, said, agrees.className boundName]

theorem handlerBlocks_eq {package : String} {comments comments' : Comments} {requestContext : Bool}
    {ss ts : List (ServiceDecl × Nat)} {rows rows' : List (List (List String))}
    (services : List.Forall₂ (fun s t => ServiceDecl.ShowsAs s t ∧ ∀ m ∈ s.1.served,
      comments.lines (methodPath s.2 m.2) = comments'.lines (methodPath s.2 m.2)) ss ts)
    (handled : List.Forall₂ (fun s =>
      List.Forall₂ (c.HandlerBlock package comments requestContext s.2) s.1.served) ss rows)
    (handled' : List.Forall₂ (fun t =>
      List.Forall₂ (d.HandlerBlock package comments' requestContext t.2) t.1.served) ts rows') :
    rows = rows' := by
  induction services generalizing rows rows' with
  | nil =>
      cases handled
      cases handled'
      rfl
  | @cons s t ss ts same _ ih =>
      obtain ⟨shows, said⟩ := same
      obtain _ | ⟨first, rest⟩ := handled
      obtain _ | ⟨first', rest'⟩ := handled'
      rw [← shows.served, ← shows.number] at first'
      refine List.cons_eq_cons.mpr ⟨?_, ih rest rest'⟩
      rw [← List.forall₂_eq_eq_eq]
      refine forall₂_of_common ((List.forall₂_and_left _ _).mpr ⟨said, first⟩) first' ?_
      rintro m block block' ⟨said, handled⟩ handled'
      exact handlerBlock_eq alike boundName messages said handled handled'

/-- Files that show the same, linked in catalogs that agree, have modules with the same blocks. -/
theorem exists_blocks {f g : TargetFile} (emits : f.Emits c) (emits' : g.Emits d)
    (shows : f.entry.file.decl.ShowsAs g.entry.file.decl) (eligible : f.entry.file.decl.hasEligible)
    (requestContext : Bool) : ∃ blocks : ModuleKind → List String, ∀ kind,
      f.moduleText kind requestContext = .ok (textOfLines
        (f.preamble kind ++ f.modules.map (·.importStatement) ++ interlude kind ++ blocks kind)) ∧
      g.moduleText kind requestContext = .ok (textOfLines
        (g.preamble kind ++ g.modules.map (·.importStatement) ++ interlude kind ++
          blocks kind)) := by
  obtain ⟨handlers, handled, text⟩ := emits.blocks requestContext
  obtain ⟨handlers', handled', text'⟩ := emits'.blocks requestContext
  have services := (List.forall₂_and_left _ _).mpr ⟨shows.comments, shows.services⟩
  have same : handlers = handlers' := by
    rw [← shows.packageName] at handled'
    refine handlerBlocks_eq alike boundName messages (services.imp ?_) handled handled'
    exact fun s t ⟨said, same⟩ => ⟨same, fun m served => said _ (Or.inr ⟨m, served, rfl⟩)⟩
  subst same
  have blocks (kind : ModuleKind) :
      List.zipWith (serviceBlock kind f.comments) f.entry.file.decl.exposed handlers =
        List.zipWith (serviceBlock kind g.comments) g.entry.file.decl.exposed handlers := by
    refine zipWith_congr_left (services.imp fun s t ⟨said, same⟩ => ?_) handlers
    exact serviceBlock_congr same (said _ (Or.inl rfl)) kind
  refine ⟨_, fun kind => ⟨text eligible kind, ?_⟩⟩
  rw [blocks kind]
  exact text' (shows.hasEligible ▸ eligible) kind

end Catalog

end Agreement

end HttpAdapter
