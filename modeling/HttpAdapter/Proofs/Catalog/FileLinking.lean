import HttpAdapter.Proofs.Catalog.Linked
import HttpAdapter.Proofs.FirstFailure

/-!
What linking a file comes to, `linkFile_exact`: it succeeds exactly if each method of the file can
be linked, gives what is declared in the order of declaration, and otherwise fails as the first
method fails that cannot be linked.  The rules of a method and the variables of a path fail in the
same way, as the first of them does.
-/

namespace HttpAdapter.Catalog

/-- A variable of a path leads from a request to no field. -/
def VariableFails (c : Catalog) (request : MessageEntry) (name : String) (fault : Fault) : Prop :=
  c.fieldPath request name = .error fault

/-- A rule has no pattern, or a pattern of its own kind that is empty, or a variable of its path
    leads to no field; the first that does not says why. -/
inductive RuleFails (c : Catalog) (request : MessageEntry) (r : HttpRule) : Fault → Prop
  | noPattern : r.pattern = none → RuleFails c request r .missingPattern
  | noKind {path : String} : r.pattern = some (.custom "" path) →
      RuleFails c request r (.missingKind path)
  | standard {verb : Verb} {path : String} {fault : Fault} :
      r.pattern = some (.standard verb path) →
      FirstFailure (c.VariableFails request) (pathVariables path) fault →
      RuleFails c request r fault
  | custom {kind path : String} {fault : Fault} : r.pattern = some (.custom kind path) →
      kind ≠ "" → FirstFailure (c.VariableFails request) (pathVariables path) fault →
      RuleFails c request r fault

/-- The type that a method takes stands for no message, or else the type that it gives does not, or
    else one of its rules fails. -/
inductive MethodFails (c : Catalog) (package : String) (m : MethodDecl) : Fault → Prop
  | request {fault : Fault} : c.message package m.inputType = .error fault →
      MethodFails c package m fault
  | response {request : MessageEntry} {fault : Fault} :
      c.message package m.inputType = .ok request →
      c.message package m.outputType = .error fault → MethodFails c package m fault
  | rule {request response : MessageEntry} {fault : Fault} :
      c.message package m.inputType = .ok request →
      c.message package m.outputType = .ok response →
      FirstFailure (c.RuleFails request) m.rules fault → MethodFails c package m fault

variable {c : Catalog} {package : String} {request : MessageEntry} {fault : Fault}

theorem firstFailure_variables_iff {path : String} :
    FirstFailure (c.VariableFails request) (pathVariables path) fault ↔
      (c.pathFaults request path).head? = some fault := by
  refine firstFailure_iff fun name fault => ?_
  rw [VariableFails]
  cases c.fieldPath request name <;> simp [faults]

theorem ruleFails_iff {r : HttpRule} :
    c.RuleFails request r fault ↔ (c.ruleFaults request r).head? = some fault := by
  constructor
  · intro failure
    cases failure with
    | noPattern none => simp [ruleFaults, none]
    | noKind pattern => simp [ruleFaults, pattern]
    | standard pattern leadsNowhere =>
        simpa only [ruleFaults, pattern] using firstFailure_variables_iff.mp leadsNowhere
    | custom pattern named leadsNowhere =>
        simpa only [ruleFaults, pattern, if_neg named] using
          firstFailure_variables_iff.mp leadsNowhere
  · intro first
    unfold ruleFaults at first
    split at first
    · rename_i none
      cases first
      exact .noPattern none
    · rename_i verb path pattern
      exact .standard pattern (firstFailure_variables_iff.mpr first)
    · rename_i kind path pattern
      split at first
      · rename_i empty
        cases first
        exact .noKind (empty ▸ pattern)
      · rename_i named
        exact .custom pattern named (firstFailure_variables_iff.mpr first)

theorem methodFails_iff (m : MethodDecl) (fault : Fault) :
    c.MethodFails package m fault ↔ (c.methodFaults package m).head? = some fault := by
  have rules (request : MessageEntry) : FirstFailure (c.RuleFails request) m.rules fault ↔
      (m.rules.flatMap (c.ruleFaults request)).head? = some fault :=
    firstFailure_iff fun r fault => ruleFails_iff
  unfold methodFaults
  constructor
  · intro failure
    cases failure with
    | request failed => simp [failed, faults]
    | response taken failed => simp [taken, failed, faults]
    | rule taken given failed =>
        simpa [taken, given, faults, Except.toOption] using (rules _).mp failed
  · intro first
    cases taken : c.message package m.inputType with
    | error other =>
        simp only [taken, faults, List.cons_append, List.head?_cons, Option.some.injEq] at first
        exact .request (first ▸ taken)
    | ok request =>
        cases given : c.message package m.outputType with
        | error other =>
            simp only [taken, given, faults, List.nil_append, List.cons_append, List.head?_cons,
              Option.some.injEq] at first
            exact .response taken (first ▸ given)
        | ok response =>
            refine .rule taken given ((rules request).mpr ?_)
            simpa [taken, given, faults, Except.toOption] using first

/-- A file is linked exactly if each method of each of its services can be.  Then its services are
    those that have methods, in their order and with their numbers, each with its methods, a method
    with a binding for each of its rules, its own first, and a binding with a parameter for each
    variable of its path, which is spelled by the fields that it leads through.  Otherwise linking
    fails as the first method does that fails. -/
theorem linkFile_exact (c : Catalog) (entry : FileEntry) :
    let decl := entry.file.decl
    ((∃ f, c.linkFile entry = .ok f) ↔
      ∀ s ∈ decl.services, ∀ m ∈ s.methods, c.CanLink decl.packageName m) ∧
    (∀ f, c.linkFile entry = .ok f →
      f.entry = entry ∧
      List.Forall₂ (c.LinksService decl.packageName)
        (decl.services.zipIdx.filter (!·.1.methods.isEmpty)) f.services ∧
      ∀ s ∈ f.services, ∀ m ∈ s.methods, (m.bindings = [] ↔ m.decl.http = none) ∧
        ∀ b ∈ m.bindings, ∀ p ∈ b.parameters, FieldPath.render p.fields = p.name) ∧
    ∀ fault, c.linkFile entry = .error fault ↔
      FirstFailure (c.MethodFails decl.packageName) decl.methods fault := by
  intro decl
  have reports := c.reportsFirst_linkFile entry
  refine ⟨?_, ?_, ?_⟩
  · rw [reports.eq_ok_iff, fileFaults_eq_nil_iff]
    simp only [FileDecl.methods, List.mem_flatMap]
    constructor
    · intro links s service m method
      exact links m ⟨s, service, method⟩
    · rintro links m ⟨s, service, method⟩
      exact links s service m method
  · intro f success
    obtain ⟨own, services⟩ := forall₂_linkFile success
    refine ⟨own, services, ?_⟩
    intro s service m method
    obtain ⟨d, -, linksService⟩ := exists_of_mem_forall₂ services service
    obtain ⟨e, -, linksMethod⟩ := exists_of_mem_forall₂ linksService.methods method
    refine ⟨?_, fun b binding p parameter => ?_⟩
    · rw [linksMethod.bindings_eq_nil_iff, linksMethod.decl]
    · exact (((links_of_linkFile success).2 s service m method).parameters b binding p parameter).2
  · intro fault
    rw [reports.eq_error_iff]
    exact (firstFailure_iff methodFails_iff).symm

/-- A file whose first service is empty is linked to its second, with a binding for a rule and one
    for what it adds, but none for what that adds in turn.  A file fails as its second method does,
    by the second rule of it. -/
theorem linkFile_exact_two_files :
    let origin : ImportedModule := ⟨"a_pb2", "p", none⟩
    let file (services : List ServiceDecl) : FileDecl :=
      ⟨"a.proto", some "p", none, none, [], [], services, []⟩
    let entry (services : List ServiceDecl) : FileEntry := ⟨⟨file services, origin⟩, [], []⟩
    let message : MessageEntry := ⟨⟨file [], origin⟩, [],
      ⟨"M", [⟨"id", .int64, "", .optional⟩, ⟨"inner", .message, "M", .optional⟩], [], []⟩, 0⟩
    let rule (path : String) (additional : List HttpRule) : HttpRule :=
      ⟨some (.standard .get path), "", "", additional⟩
    let method (http : Option HttpRule) : MethodDecl := ⟨"Get", "M", ".p.M", false, false, http⟩
    let served : ServiceDecl := ⟨"S", [method none, method (some (rule "/v1/\x7b inner.id \x7d"
      [rule "/v2/\x7bid\x7d/\x7bid=*\x7d" [⟨none, "", "", []⟩]]))]⟩
    let refused : ServiceDecl := ⟨"T", [method none, method (some (rule "/v1/\x7bid\x7d"
      [rule "/v2/\x7bid\x7d/\x7bid.x\x7d" []]))]⟩
    let c : Catalog := { empty "" [] with messages := [(".p.M", message)] }
    (∃ f, c.linkFile (entry [⟨"Empty", []⟩, served]) = .ok f ∧
      List.Forall₂ (c.LinksService "p") [(served, 1)] f.services) ∧
    FirstFailure (c.MethodFails "p") refused.methods (.scalarInPath "id.x" "id") := by
  intro origin file entry message rule method served refused c
  refine ⟨?_, ?_⟩
  · obtain ⟨-, linked, -⟩ := linkFile_exact c (entry [⟨"Empty", []⟩, served])
    have free : c.fileFaults (file [⟨"Empty", []⟩, served]) = [] := by decide +kernel
    have reports := c.reportsFirst_linkFile (entry [⟨"Empty", []⟩, served])
    obtain ⟨f, success⟩ := reports.eq_ok_iff.mpr free
    exact ⟨f, success, (linked f success).2.1⟩
  · obtain ⟨-, -, failure⟩ := linkFile_exact c (entry [refused])
    have first : (c.fileFaults (file [refused])).head? = some (.scalarInPath "id.x" "id") := by
      decide +kernel
    exact (failure _).mp ((c.reportsFirst_linkFile (entry [refused])).eq_error_iff.mpr first)

end HttpAdapter.Catalog
