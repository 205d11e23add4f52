import HttpAdapter.Proofs.Plugin

/-!
What one target contributes to an answer.  The answer is put together from what each target yields,
and that depends on the parameter and the files alone, not on the other targets:
`yields_independent`.
-/

namespace HttpAdapter.Plugin

open Catalog

section Linked

variable {r s : Request}

theorem filterMap_linkedFiles {α : Type} (r : Request) (loaded : ((start r).load r).fault = none)
    (f : TargetFile → Option α) :
    (linkedFiles r).filterMap f =
      r.targets.filterMap fun name =>
        (((start r).load r).catalog.target name).toOption.bind f := by
  have related := forall₂_linkedFiles r loaded
  generalize r.targets = names at related
  generalize linkedFiles r = files at related
  induction related with
  | nil => rfl
  | cons first _ ih =>
      rw [List.filterMap_cons, List.filterMap_cons, ih, first.2]
      rfl

theorem catalog_congr (parameter : r.parameter = s.parameter) (files : r.files = s.files) :
    catalog r = catalog s := by
  rw [catalog, catalog, settings, settings, registerAll, registerAll, parameter, files]

/-- A target is linked in the catalog of the files. -/
theorem target_of_load (loaded : ((start r).load r).fault = none) {name : String}
    (target : name ∈ r.targets) :
    ∃ entry f, (catalog r).files.get? name = some entry ∧ (catalog r).linkFile entry = .ok f ∧
      ((start r).load r).catalog.target name = .ok f ∧ f.name = name := by
  have parts := loaded
  rw [load_fault rfl, Option.or_eq_none_iff] at parts
  obtain ⟨registered, linked⟩ := parts
  obtain ⟨entry, f, found, linking, led⟩ := targets_linkTargets linked name target
  refine ⟨entry, f, found, linking, ?_, ?_⟩
  · rw [Catalog.target, targets_load rfl loaded, led]
  · have declared : r.file? name = some entry.file.decl := by
      rw [← decl?_catalog r registered]
      exact congrArg (Option.map (·.file.decl)) found
    have own := List.find?_some (p := fun f : FileDecl => f.name == name) declared
    rw [TargetFile.name, (links_of_linkFile linking).1]
    exact beq_iff_eq.mp own

end Linked

section Yield

variable [Grammar.Interpreter] (r : Request)

/-- The module of a kind that a request yields for a file, if the file is a target with something to
    generate. -/
def yields (kind : ModuleKind) (name : String) : Option GeneratedFile :=
  (((start r).load r).catalog.target name).toOption.bind fun f =>
    (f.generate kind (settings r).requestContext).toOption.join

/-- Modules are generated for the files in their order, where there is something to generate. -/
theorem filterMap_of_generateKind {kind : ModuleKind} {requestContext : Bool}
    {files : List TargetFile} {modules : List GeneratedFile}
    (success : generateKind kind requestContext files = .ok modules) :
    modules = files.filterMap fun f => (f.generate kind requestContext).toOption.join := by
  obtain ⟨all, generated, success⟩ := bind_eq_ok.mp success
  cases success
  have related := forall₂_of_mapM_eq_ok generated
  clear generated success
  induction related with
  | nil => rfl
  | cons first _ ih => rw [List.filterMap_cons, List.filterMap_cons, ih, first]; rfl

variable {r}

theorem generate_of_error_eq_none (answered : (reply r).error = none) :
    generate r = .ok (reply r).files := by
  unfold reply at answered ⊢
  cases result : generate r with
  | ok files => rfl
  | error fault =>
      rw [result] at answered
      cases answered

/-- An answer consists of the adapters that the targets yield, in their order, and behind them of
    the routers. -/
theorem files_reply (answered : (reply r).error = none) :
    (reply r).files =
      r.targets.filterMap (yields r .adapter) ++ r.targets.filterMap (yields r .router) := by
  obtain ⟨loaded, generated⟩ := generateAll_of_generate r (generate_of_error_eq_none answered)
  obtain ⟨adapters, first, generated⟩ := bind_eq_ok.mp generated
  obtain ⟨routers, second, generated⟩ := bind_eq_ok.mp generated
  have files : adapters ++ routers = (reply r).files := Except.ok.inj generated
  rw [← files, filterMap_of_generateKind first, filterMap_of_generateKind second,
    filterMap_linkedFiles r loaded, filterMap_linkedFiles r loaded]
  rfl

variable {s : Request}

/-- A module goes to the output file of the file that it is generated for. -/
theorem name_of_generate {f : TargetFile} {kind : ModuleKind} {requestContext : Bool}
    {g : GeneratedFile} (generated : f.generate kind requestContext = .ok (some g)) :
    g.name = outputFile kind f.name := by
  rw [generate_eq] at generated
  split at generated
  · cases generated
  · split at generated
    · rw [Except.ok.injEq, Option.some.injEq] at generated
      rw [← generated, TargetFile.moduleFile]
    · cases generated

/-- Two requests with the same parameter and the same files, both answered without an error, yield
    the same for a file that is a target of both: the same adapter and the same router, or neither.
    The answers consist of what their targets yield, each in its order, and a module that is yielded
    goes to the output file of its target. -/
theorem yields_independent (parameter : r.parameter = s.parameter) (files : r.files = s.files)
    (answered : (reply r).error = none) (answered' : (reply s).error = none) :
    (reply r).files =
      r.targets.filterMap (yields r .adapter) ++ r.targets.filterMap (yields r .router) ∧
    (reply s).files =
      s.targets.filterMap (yields s .adapter) ++ s.targets.filterMap (yields s .router) ∧
    ∀ name ∈ r.targets, name ∈ s.targets → ∀ kind, yields r kind name = yields s kind name ∧
      ∀ g ∈ yields r kind name, g.name = outputFile kind name := by
  refine ⟨files_reply answered, files_reply answered', ?_⟩
  intro name target target' kind
  obtain ⟨loaded, -⟩ := generateAll_of_generate r (generate_of_error_eq_none answered)
  obtain ⟨loaded', -⟩ := generateAll_of_generate s (generate_of_error_eq_none answered')
  obtain ⟨entry, f, found, linking, led, own⟩ := target_of_load loaded target
  obtain ⟨entry', f', found', linking', led', -⟩ := target_of_load loaded' target'
  have same := catalog_congr parameter files
  rw [← same, found, Option.some.injEq] at found'
  subst found'
  rw [← same, linking, Except.ok.injEq] at linking'
  subst linking'
  have context : settings r = settings s := by rw [settings, settings, parameter]
  refine ⟨by rw [yields, yields, led, led', context], ?_⟩
  intro g yielded
  rw [yields, led] at yielded
  have generated : (f.generate kind (settings r).requestContext).toOption.join = some g := yielded
  cases result : f.generate kind (settings r).requestContext with
  | error fault =>
      rw [result] at generated
      cases generated
  | ok module =>
      rw [result] at generated
      rw [← own, ← name_of_generate (result.trans (congrArg Except.ok generated))]

end Yield

/-- A target that is served among others and by itself yields its two modules in both answers. -/
theorem yields_independent_two_requests :
    let get : Option HttpRule := some ⟨some (.standard .get "/\x7bid=a/*\x7d"), "", "", []⟩
    let first : FileDecl := ⟨"a.proto", some "p", none, none,
      [⟨"M", [⟨"id", .string, "", .optional⟩], [], []⟩], [],
      [⟨"S", [⟨"A", "M", "M", false, false, get⟩]⟩], []⟩
    let second : FileDecl := ⟨"b.proto", some "p", none, none, [], [],
      [⟨"S", [⟨"B", ".p.M", "M", false, false, none⟩]⟩], []⟩
    let r : Request := ⟨"", ["b.proto", "a.proto"], [first, second]⟩
    let s : Request := ⟨"", ["a.proto"], [first, second]⟩
    let _ : Grammar.Interpreter := .bare
    (reply r).error = none ∧ (reply s).error = none ∧
      (reply r).files.map (·.name) = ["a_pb2_http.py", "a_pb2_http_router.py"] ∧
      (reply s).files.map (·.name) = ["a_pb2_http.py", "a_pb2_http_router.py"] ∧
      ∀ kind, yields r kind "a.proto" = yields s kind "a.proto" := by
  intro get first second r s
  have legible : ∀ f ∈ linkedFiles r, @TargetFile.Legible .bare f := by decide +kernel
  have legible' : ∀ f ∈ linkedFiles s, @TargetFile.Legible .bare f := by decide +kernel
  intro _
  have answer : reply r = _ := reply_eq_of_legible (s := .default) (by decide +kernel)
    (by decide +kernel) legible (by decide +kernel)
  have answer' : reply s = _ := reply_eq_of_legible (s := .default) (by decide +kernel)
    (by decide +kernel) legible' (by decide +kernel)
  have answered : (reply r).error = none := by rw [answer]
  have answered' : (reply s).error = none := by rw [answer']
  obtain ⟨-, -, shared⟩ := yields_independent (r := r) (s := s) rfl rfl answered answered'
  refine ⟨answered, answered', ?_, ?_, fun kind =>
    (shared "a.proto" (by decide) (by decide) kind).1⟩
  · rw [answer, List.map_append, List.map_map, List.map_map]
    decide +kernel
  · rw [answer', List.map_append, List.map_map, List.map_map]
    decide +kernel

end HttpAdapter.Plugin
