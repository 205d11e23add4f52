import HttpAdapter.Proofs.Catalog.Parallel
import HttpAdapter.Proofs.Catalog.Representation
import HttpAdapter.Proofs.Generation.Blocks

/-!
What the generated text depends on.  Every linked file has the text that its eligible methods call
for, block by block, and methods that are not eligible leave no trace in it: `emission_run`.
-/

namespace HttpAdapter

/-- A service with further methods behind its own, none of which is eligible. -/
structure ServiceDecl.Grows (s t : ServiceDecl) : Prop where
  name : s.name = t.name
  methods : ∃ further, t.methods = s.methods ++ further ∧ ∀ m ∈ further, ¬ m.isEligible

/-- A file with further methods behind those of its services, none of which is eligible.  What is
    said about the services and methods that appear stays the same. -/
structure FileDecl.Grows (f g : FileDecl) : Prop where
  rest : g = { f with services := g.services, locations := g.locations }
  services : List.Forall₂ ServiceDecl.Grows f.services g.services
  comments : ∀ s ∈ f.exposed, ∀ path, (path = servicePath s.2 ∨
      ∃ m ∈ s.1.served, path = methodPath s.2 m.2) →
    (Comments.ofLocations f.locations).lines path = (Comments.ofLocations g.locations).lines path

theorem ServiceDecl.Grows.refl (s : ServiceDecl) : s.Grows s :=
  ⟨rfl, [], by simp, by simp⟩

theorem FileDecl.Grows.refl (f : FileDecl) : f.Grows f :=
  ⟨rfl, List.forall₂_same.mpr fun s _ => .refl s, fun _ _ _ _ => rfl⟩

theorem ServiceDecl.Grows.served {s t : ServiceDecl} (grows : s.Grows t) : s.served = t.served := by
  obtain ⟨further, methods, idle⟩ := grows.methods
  have none : (further.zipIdx s.methods.length).filter (·.1.isEligible) = [] := by
    refine List.filter_eq_nil_iff.mpr fun m member => idle m.1 ?_
    rw [← List.zipIdx_map_fst s.methods.length further]
    exact List.mem_map_of_mem member
  rw [ServiceDecl.served, ServiceDecl.served, methods, List.zipIdx_append, List.filter_append,
    Nat.zero_add, none, List.append_nil]

theorem ServiceDecl.Grows.any_isEligible {s t : ServiceDecl} (grows : s.Grows t) :
    s.methods.any (·.isEligible) = t.methods.any (·.isEligible) := by
  obtain ⟨further, methods, idle⟩ := grows.methods
  have none : further.any (·.isEligible) = false := List.any_eq_false.mpr idle
  rw [methods, List.any_append, none, Bool.or_false]

theorem forall₂_zipIdx {α β : Type} {S : α → β → Prop} {as : List α} {bs : List β}
    (related : List.Forall₂ S as bs) (n : Nat) :
    List.Forall₂ (fun a b => S a.1 b.1 ∧ a.2 = b.2) (as.zipIdx n) (bs.zipIdx n) := by
  induction related generalizing n with
  | nil => exact .nil
  | cons first _ ih => exact .cons ⟨first, rfl⟩ (ih (n + 1))

/-- Methods that are not eligible do not show. -/
theorem FileDecl.Grows.showsAs {f g : FileDecl} (grows : f.Grows g) : f.ShowsAs g := by
  have package : f.packageName = g.packageName := by
    rw [grows.rest]
    rfl
  have services := List.rel_filter
    (p := fun s : ServiceDecl × Nat => s.1.methods.any (·.isEligible))
    (q := fun s : ServiceDecl × Nat => s.1.methods.any (·.isEligible))
    (fun s t same => iff_of_eq (congrArg (· = true) same.1.any_isEligible))
    (forall₂_zipIdx grows.services 0)
  refine ⟨package, services.imp fun s t same => ?_, grows.comments⟩
  exact ⟨same.1.name, same.2, same.1.served⟩

/-- Two registered files with one module, of which the second has further methods. -/
structure SourceFile.Grows (s t : SourceFile) : Prop where
  decl : s.decl.Grows t.decl
  module : s.module = t.module

theorem SourceFile.Grows.alike {s t : SourceFile} (grows : s.Grows t) : s.Alike t := by
  have rest := grows.decl.rest
  refine ⟨?_, ?_, ?_, ?_, ?_⟩
  · exact (congrArg (·.name) rest).symm
  · exact (congrArg (·.packageName) rest).symm
  · exact (congrArg (·.isProto2) rest).symm
  · exact (congrArg (·.messages) rest).symm
  · exact (congrArg (·.enums) rest).symm

namespace Catalog

/-- Files with further methods get the same modules. -/
theorem forall₂_sourcesOf_of_grows (c : Catalog) {fs gs : List FileDecl}
    (grows : List.Forall₂ FileDecl.Grows fs gs) :
    List.Forall₂ SourceFile.Grows (c.sourcesOf fs) (c.sourcesOf gs) := by
  induction grows generalizing c with
  | nil => exact .nil
  | @cons f g fs gs first _ ih =>
      have module : c.moduleOf f = c.moduleOf g := by
        rw [first.rest]
        rfl
      rw [sourcesOf, sourcesOf, ← module]
      exact .cons ⟨first, rfl⟩ (ih _)

/-- Once the files of a request are registered, the file of that name is linked to this. -/
def LinksTo (c : Catalog) (r : Request) (name : String) (f : TargetFile) : Prop :=
  (Outcome.each register c r.files).fault = none ∧
    ∃ entry, (c.registerAll r).files.get? name = some entry ∧
      (c.registerAll r).linkFile entry = .ok f

/-- What a load makes a target is linked by it. -/
theorem linksTo_of_target {c : Catalog} {r : Request} {name : String} {f : TargetFile}
    (new : c.targets.get? name = none) (found : (c.load r).catalog.targets.get? name = some f) :
    c.LinksTo r name f := by
  rcases get?_targets_load c r name with kept | ⟨-, success, entry, linked, held, linking, made⟩
  · rw [kept, new] at found
    cases found
  · rw [found, Option.some.injEq] at made
    subst made
    exact ⟨success, entry, held, linking⟩

/-- Where the second of two requests has further methods that are not eligible, a file that is
    linked for both has the same texts. -/
theorem moduleText_eq_of_grows {c : Catalog} {r s : Request}
    (grows : List.Forall₂ FileDecl.Grows r.files s.files) {name : String} {f g : TargetFile}
    (links : c.LinksTo r name f) (links' : c.LinksTo s name g) (kind : ModuleKind)
    (requestContext : Bool) :
    f.moduleText kind requestContext = g.moduleText kind requestContext := by
  obtain ⟨success, entry, held, linking⟩ := links
  obtain ⟨success', entry', held', linking'⟩ := links'
  have parallel := (Parallel.refl (R := SourceFile.Grows)
    (fun s => ⟨.refl s.decl, rfl⟩) c).registerAll
    (fun _ _ => SourceFile.Grows.alike) (forall₂_sourcesOf_of_grows c grows) success success'
  have alike : ∀ s t, SourceFile.Grows s t → s.Alike t := fun _ _ => SourceFile.Grows.alike
  have file : SourceFile.Grows f.entry.file g.entry.file := by
    have entries := parallel.files.rel_get? name
    rw [held, held', Option.rel_some_some] at entries
    rw [(forall₂_linkFile linking).1, (forall₂_linkFile linking').1]
    exact entries.file
  have emits := emits_of_linkFile linking
  have emits' := emits_of_linkFile linking'
  have shows := file.decl.showsAs
  have names : f.name = g.name := file.alike.name
  by_cases eligible : f.entry.file.decl.hasEligible
  · have modules : f.modules = g.modules := by
      obtain ⟨ms, taken, kept⟩ := emits.modules
      obtain ⟨ns, taken', kept'⟩ := emits'.modules
      rw [← shows.packageName, ← shows.served] at taken'
      have related := forall₂_requestModule parallel.messages.rel_get? taken taken'
      have same : ms = ns := by
        rw [← List.forall₂_eq_eq_eq]
        refine related.imp ?_
        rintro _ _ ⟨s, t, grows, rfl, rfl⟩
        exact grows.module
      rw [kept, kept', same]
    obtain ⟨blocks, texts⟩ := exists_blocks alike
      (fun _ _ grows => congrArg (·.boundName) (SourceFile.Grows.module grows))
      parallel.messages.rel_get? emits emits' shows eligible requestContext
    obtain ⟨text, text'⟩ := texts kind
    rw [text, text', preamble_congr names (congrArg (·.name) file.module), modules]
  · rw [(emits.nothing kind requestContext).mpr eligible, names]
    exact ((emits'.nothing kind requestContext).mpr (shows.hasEligible ▸ eligible)).symm

/-- In every catalog that commands lead to: each target was linked in the catalog that a load had
    registered its files in, and its texts are what its eligible methods call for, block by block.
    Two requests from there whose files are the same, but for further methods behind those of some
    services, none of them eligible, give the same texts for each file that is linked for both. -/
theorem emission_run (importPrefix : String) (packageMap : Table String)
    (commands : List Command) :
    let c := (empty importPrefix packageMap).run commands
    (∀ name f, c.targets.get? name = some f → ∃ before r after,
      LinkedBy (empty importPrefix packageMap) commands f before r after ∧
      f.Emits (((empty importPrefix packageMap).run before).registerAll r)) ∧
    ∀ r s : Request, List.Forall₂ FileDecl.Grows r.files s.files →
      ∀ name f g, c.LinksTo r name f → c.LinksTo s name g →
        ∀ kind requestContext,
          f.moduleText kind requestContext = g.moduleText kind requestContext := by
  intro c
  refine ⟨fun name f found => ?_, fun r s grows name f g links links' =>
    moduleText_eq_of_grows grows links links'⟩
  obtain ⟨before, r, after, history⟩ := exists_linkedBy found
  exact ⟨before, r, after, history, emits_of_linkFile history.success⟩

/-- A service gets a streaming method and one without a rule, each with a comment, behind the one
    that is eligible, and another service gets its first method: the texts stay as they are. -/
theorem emission_run_two_requests :
    let get : HttpRule := ⟨some (.standard .get "/\x7bid=a/*\x7d"), "", "", []⟩
    let method : MethodDecl := ⟨"Get", "M", "M", false, false, some get⟩
    let said : SourceLocation := ⟨[6, 0, 2, 0], [], "Gets one.", ""⟩
    let first : FileDecl := ⟨"a.proto", some "p", none, none,
      [⟨"M", [⟨"id", .string, "", .optional⟩], [], []⟩], [],
      [⟨"S", [method]⟩, ⟨"T", []⟩], [said]⟩
    let second : FileDecl := { first with
      services := [⟨"S", [method, ⟨"Watch", "M", "M", false, true, some get⟩,
        ⟨"Put", "M", "M", false, false, none⟩]⟩, ⟨"T", [⟨"Put", "M", "M", false, false, none⟩]⟩],
      locations := [said, ⟨[6, 0, 2, 1], [], "Watches.", ""⟩, ⟨[6, 0, 2, 2], [], "Puts.", ""⟩] }
    let r : Request := ⟨"", ["a.proto"], [first]⟩
    let s : Request := ⟨"", ["a.proto"], [second]⟩
    ∃ f g, ((empty "" []).run [.load r]).targets.get? "a.proto" = some f ∧
      ((empty "" []).run [.load s]).targets.get? "a.proto" = some g ∧
      f.Emits ((empty "" []).registerAll r) ∧ f.entry.file.decl.hasEligible ∧
      f.services.map (·.methods.length) = [1] ∧ g.services.map (·.methods.length) = [3, 1] ∧
      ∀ kind requestContext,
        f.moduleText kind requestContext = g.moduleText kind requestContext := by
  intro get method said first second r s
  have linked : (((empty "" []).run [.load r]).targets.get? "a.proto").any (fun f =>
      f.entry.file.decl.hasEligible && f.services.map (·.methods.length) == [1]) := by
    decide +kernel
  have linked' : (((empty "" []).run [.load s]).targets.get? "a.proto").any (fun g =>
      g.services.map (·.methods.length) == [3, 1]) := by decide +kernel
  obtain ⟨f, found, holds⟩ := (Option.any_eq_true _ _).mp linked
  obtain ⟨g, found', holds'⟩ := (Option.any_eq_true _ _).mp linked'
  rw [Bool.and_eq_true, beq_iff_eq] at holds
  have grows : first.Grows second := by
    refine ⟨rfl, .cons ⟨rfl, _, rfl, by decide⟩ (.cons ⟨rfl, _, rfl, by decide⟩ .nil), ?_⟩
    have services : first.exposed = [(⟨"S", [method]⟩, 0)] := rfl
    have methods : ServiceDecl.served ⟨"S", [method]⟩ = [(method, 0)] := rfl
    intro service member path shown
    rw [services, List.mem_singleton] at member
    subst member
    rw [methods] at shown
    rcases shown with rfl | ⟨m, served, rfl⟩
    · decide +kernel
    · rw [List.mem_singleton] at served
      subst served
      decide +kernel
  obtain ⟨-, texts⟩ := emission_run "" [] []
  obtain ⟨before, _, after, history, emits⟩ := (emission_run "" [] [.load r]).1 "a.proto" f found
  rcases List.append_eq_singleton_iff.mp history.split.symm with ⟨rfl, load⟩ | ⟨-, none⟩
  swap
  · cases none
  rw [List.cons.injEq, Command.load.injEq] at load
  rw [load.1] at emits
  refine ⟨f, g, found, found', emits, holds.1, holds.2, beq_iff_eq.mp holds', ?_⟩
  exact texts r s (.cons grows .nil) "a.proto" f g (linksTo_of_target rfl found)
    (linksTo_of_target rfl found')

end Catalog

end HttpAdapter
