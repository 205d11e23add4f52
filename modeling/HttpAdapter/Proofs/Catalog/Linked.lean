import HttpAdapter.Proofs.Catalog.LinkFaults

/-!
Which of the services and methods that a file is linked to appear in generated modules.  They are
told by the declarations alone: a method gets a handler exactly if it is eligible, and a service
appears exactly if it has such a method (`forall₂_exposed`).
-/

namespace HttpAdapter

/-- The methods of a service that get a handler, with their numbers. -/
def ServiceDecl.served (s : ServiceDecl) : List (MethodDecl × Nat) :=
  s.methods.zipIdx.filter (·.1.isEligible)

/-- The services of a file that appear, with their numbers. -/
def FileDecl.exposed (f : FileDecl) : List (ServiceDecl × Nat) :=
  f.services.zipIdx.filter (·.1.methods.any (·.isEligible))

/-- A file has something to generate exactly if one of its services appears. -/
theorem hasEligible_iff {f : FileDecl} : f.hasEligible ↔ f.exposed ≠ [] := by
  have shown : f.hasEligible =
      (f.services.zipIdx.map (·.1)).any (·.methods.any (·.isEligible)) := by
    rw [List.zipIdx_map_fst, FileDecl.hasEligible, FileDecl.methods, List.any_flatMap]
  rw [shown, FileDecl.exposed, List.any_map]
  simp

namespace Catalog

variable {c : Catalog} {package : String}

/-- A method has no binding exactly if it is declared without a rule. -/
theorem LinksMethod.bindings_eq_nil_iff {d : MethodDecl × Nat} {m : LinkedMethod}
    (links : c.LinksMethod package d m) : m.bindings = [] ↔ d.1.http = none := by
  rw [← List.length_eq_zero_iff, ← links.bindings.length_eq, MethodDecl.rules]
  cases d.1.http with
  | none => simp
  | some r => simp [HttpRule.withAdditional]

theorem LinksMethod.isServed {d : MethodDecl × Nat} {m : LinkedMethod}
    (links : c.LinksMethod package d m) : m.isServed = d.1.isEligible := by
  have bindings : m.bindings.isEmpty = d.1.http.isNone := by
    rw [Bool.eq_iff_iff, List.isEmpty_iff, Option.isNone_iff_eq_none, links.bindings_eq_nil_iff]
  rw [LinkedMethod.isServed, LinkedMethod.isUnary, bindings, links.decl, MethodDecl.isEligible]
  simp

/-- The methods that get a handler are those that are eligible. -/
theorem LinksService.served {d : ServiceDecl × Nat} {s : LinkedService}
    (links : c.LinksService package d s) :
    List.Forall₂ (c.LinksMethod package) d.1.served s.served := by
  refine List.rel_filter (fun m linked method => ?_) links.methods
  exact iff_of_eq (congrArg (· = true) method.isServed.symm)

/-- The services that appear are those with an eligible method. -/
theorem forall₂_exposed {entry : FileEntry} {f : TargetFile}
    (success : c.linkFile entry = .ok f) :
    List.Forall₂ (c.LinksService entry.file.decl.packageName) entry.file.decl.exposed
      f.exposed := by
  have appears (d : ServiceDecl × Nat) (s : LinkedService)
      (links : c.LinksService entry.file.decl.packageName d s) :
      d.1.methods.any (·.isEligible) = !s.served.isEmpty := by
    have methods := (List.zipIdx_map_fst 0 d.1.methods).symm
    rw [Bool.eq_iff_iff, Bool.not_eq_true', ← Bool.not_eq_true, List.isEmpty_iff_length_eq_zero,
      ← links.served.length_eq, List.length_eq_zero_iff, ServiceDecl.served, methods, List.any_map]
    simp
  have related := List.rel_filter
    (fun d s links => iff_of_eq (congrArg (· = true) (appears d s links)))
    (forall₂_linkFile success).2
  have kept (d : ServiceDecl × Nat) : (d.1.methods.any (·.isEligible) && !d.1.methods.isEmpty) =
      d.1.methods.any (·.isEligible) := by
    cases d.1.methods <;> simp
  rw [FileDecl.exposed, TargetFile.exposed]
  simpa only [List.filter_filter, kept] using related

/-- A linked file has something to generate if and only if one of its methods is eligible. -/
theorem exposed_of_linkFile {entry : FileEntry} {f : TargetFile}
    (success : c.linkFile entry = .ok f) :
    (!f.exposed.isEmpty) = f.entry.file.decl.hasEligible := by
  rw [(forall₂_linkFile success).1, Bool.eq_iff_iff, hasEligible_iff, Bool.not_eq_true',
    ← Bool.not_eq_true, List.isEmpty_iff_length_eq_zero, ← (forall₂_exposed success).length_eq,
    List.length_eq_zero_iff]

end Catalog

end HttpAdapter
