import HttpAdapter.Plugin
import HttpAdapter.Proofs.Catalog.Linked
import HttpAdapter.Proofs.Generation.Emission
import HttpAdapter.Proofs.Generation.Programs
import HttpAdapter.Proofs.Settings

/-!
What the plugin answers to a request: all files that were asked for, or none and what is wrong
first.  The violations of a request stand in one row, and there are none if and only if the
request is sound: `process_all_or_nothing`.  One violation is not reported and ends the run, the
name of a generated file with the null character.
-/

namespace HttpAdapter.Plugin

open Catalog

/-- The settings of a request, or those without a parameter where its own is wrong. -/
def settings (r : Request) : Settings :=
  (Settings.ofParameter r.parameter).toOption.getD Settings.default

/-- The catalog of the files of a request. -/
def catalog (r : Request) : Catalog :=
  (empty (settings r).importPrefix (settings r).packageMap).registerAll r

/-- The files of a request that code is to be generated for. -/
def targetFiles (r : Request) : List FileDecl := r.targets.filterMap r.file?

/-- These files, linked. -/
def linkedFiles (r : Request) : List TargetFile :=
  r.targets.filterMap fun name => ((catalog r).files.get? name).bind fun entry =>
    ((catalog r).linkFile entry).toOption

/-- Those among them that have an eligible method. -/
def servedFiles (r : Request) : List TargetFile :=
  (linkedFiles r).filter (·.entry.file.decl.hasEligible)

section Loading

variable (r : Request)

/-- The catalog that the files of a request are registered in. -/
abbrev start : Catalog := empty (settings r).importPrefix (settings r).packageMap

theorem settings_eq {s : Settings} (read : Settings.ofParameter r.parameter = .ok s) :
    settings r = s := by
  rw [settings, read]
  rfl

theorem decl?_catalog (success : (Outcome.each register (start r) r.files).fault = none) :
    (catalog r).decl? = r.file? := by
  funext name
  exact (decl?_registerAll success name).trans Option.none_or

/-- After a load each target leads to its file, linked. -/
theorem forall₂_linkedFiles (success : ((start r).load r).fault = none) :
    List.Forall₂ (fun name f => r.file? name = some f.entry.file.decl ∧
      ((start r).load r).catalog.target name = .ok f) r.targets (linkedFiles r) := by
  have parts := success
  rw [load_fault rfl, Option.or_eq_none_iff] at parts
  obtain ⟨registered, linked⟩ := parts
  refine forall₂_filterMap fun name target => ?_
  obtain ⟨entry, f, found, linking, led⟩ := targets_linkTargets linked name target
  have found : (catalog r).files.get? name = some entry := found
  have linking : (catalog r).linkFile entry = .ok f := linking
  refine ⟨f, ?_, ?_, ?_⟩
  · rw [found, Option.bind_some, linking]
    rfl
  · rw [← decl?_catalog r registered, decl?, found, (links_of_linkFile linking).1]
    rfl
  · rw [Catalog.target, targets_load rfl success, led]

theorem mapM_target_load (success : ((start r).load r).fault = none) :
    r.targets.mapM ((start r).load r).catalog.target = .ok (linkedFiles r) :=
  mapM_eq_ok_of_forall₂ ((forall₂_linkedFiles r success).imp fun _ _ both => both.2)

theorem hasEligible_of_mem_linkedFiles {f : TargetFile} (member : f ∈ linkedFiles r) :
    (!f.exposed.isEmpty) = f.entry.file.decl.hasEligible := by
  obtain ⟨name, -, led⟩ := List.mem_filterMap.mp member
  obtain ⟨entry, -, linking⟩ := Option.bind_eq_some_iff.mp led
  cases success : (catalog r).linkFile entry with
  | error fault => simp [success, Except.toOption] at linking
  | ok g =>
      simp only [success, Except.toOption, Option.some.injEq] at linking
      subst linking
      exact exposed_of_linkFile success

theorem filter_exposed : (linkedFiles r).filter (!·.exposed.isEmpty) = servedFiles r :=
  List.filter_congr fun _ member => hasEligible_of_mem_linkedFiles r member

end Loading

section Answer

variable [Grammar.Interpreter] (r : Request)

/-- A parameter that is read and a load to its end lead to the modules for the linked targets. -/
theorem generate_eq_bind : generate r = (Settings.ofParameter r.parameter).bind fun _ =>
    match ((start r).load r).fault with
    | some fault => .error fault
    | none => generateAll (settings r).requestContext true (linkedFiles r) := by
  rw [generate]
  cases read : Settings.ofParameter r.parameter with
  | error fault => rfl
  | ok s =>
      obtain rfl := settings_eq r read
      have targets := mapM_target_load r
      dsimp only [bind, Except.bind]
      rw [start] at targets ⊢
      generalize (empty _ _).load r = o at targets ⊢
      obtain ⟨c, fault⟩ := o
      cases fault with
      | some fault => rfl
      | none =>
          dsimp only at targets ⊢
          rw [targets rfl]

/-- Files come from a load to its end, and are those generated for its targets. -/
theorem generateAll_of_generate {files : List GeneratedFile} (success : generate r = .ok files) :
    ((start r).load r).fault = none ∧
      generateAll (settings r).requestContext true (linkedFiles r) = .ok files := by
  rw [generate_eq_bind] at success
  obtain ⟨_, -, success⟩ := bind_eq_ok.mp success
  cases fault : ((start r).load r).fault with
  | some fault =>
      rw [fault] at success
      cases success
  | none =>
      rw [fault] at success
      exact ⟨rfl, success⟩

/-- The files that the plugin generates: adapters first, then routers. -/
theorem eq_of_generate {files : List GeneratedFile} (success : generate r = .ok files) :
    files =
      (servedFiles r).map (·.moduleFile .adapter (settings r).requestContext) ++
      (servedFiles r).map (·.moduleFile .router (settings r).requestContext) := by
  rw [← filter_exposed]
  exact eq_of_generateAll _ _ (generateAll_of_generate r success).2

end Answer

section Legible

variable [Grammar.Interpreter]

/-- A request that loads to the end, with legible targets, is answered by an adapter for each target
    with anything to generate, and behind those by a router for each of the same. -/
theorem generate_eq_of_legible {r : Request} {s : Settings}
    (read : Settings.ofParameter r.parameter = .ok s)
    (loaded : ((Catalog.empty s.importPrefix s.packageMap).load r).fault = none)
    (legible : ∀ f ∈ linkedFiles r, f.Legible)
    (free : ∀ f ∈ linkedFiles r, NullFree f.freeTexts) :
    generate r = .ok ((servedFiles r).map (·.moduleFile .adapter s.requestContext) ++
      (servedFiles r).map (·.moduleFile .router s.requestContext)) := by
  obtain rfl := settings_eq r read
  have loaded : ((start r).load r).fault = none := loaded
  rw [generate_eq_bind, read, loaded, ← filter_exposed]
  exact generateAll_eq_of_legible legible free (settings r).requestContext true

theorem reply_eq_of_legible {r : Request} {s : Settings}
    (read : Settings.ofParameter r.parameter = .ok s)
    (loaded : ((Catalog.empty s.importPrefix s.packageMap).load r).fault = none)
    (legible : ∀ f ∈ linkedFiles r, f.Legible)
    (free : ∀ f ∈ linkedFiles r, NullFree f.freeTexts) :
    reply r = ⟨none, some optionalFields,
      (servedFiles r).map (·.moduleFile .adapter s.requestContext) ++
        (servedFiles r).map (·.moduleFile .router s.requestContext)⟩ := by
  rw [reply, generate_eq_of_legible read loaded legible free]
  rfl

end Legible

end HttpAdapter.Plugin
