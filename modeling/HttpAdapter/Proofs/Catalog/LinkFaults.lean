import HttpAdapter.Generation
import HttpAdapter.Proofs.Catalog.Registration
import HttpAdapter.Proofs.Catalog.Targets

/-!
What may be said against linking.  Each method lists its faults in the order in which they are met,
and files are linked up to the first fault of all: `linkTargets_fault`.  A load stops there unless
it has stopped before: `load_fault`.
-/

namespace HttpAdapter

/-- Whether a method takes one message, gives one and has a rule. -/
def MethodDecl.isEligible (m : MethodDecl) : Bool :=
  !m.clientStreaming && !m.serverStreaming && m.http.isSome

/-- The methods of all services of a file. -/
def FileDecl.methods (f : FileDecl) : List MethodDecl := f.services.flatMap (·.methods)

/-- Whether a file has something to generate. -/
def FileDecl.hasEligible (f : FileDecl) : Bool := f.methods.any (·.isEligible)

namespace Catalog

variable (c : Catalog)

/-- All variables of a path lead from a request to a field. -/
def Resolves (request : MessageEntry) (path : String) : Prop :=
  ∀ name ∈ pathVariables path, ∃ fields, c.fieldPath request name = .ok fields

/-- A rule has a pattern with a kind that is not empty, and its variables lead to fields. -/
inductive CanBind (request : MessageEntry) (r : HttpRule) : Prop
  | standard {verb : Verb} {path : String} :
      r.pattern = some (.standard verb path) → c.Resolves request path → CanBind request r
  | custom {kind path : String} :
      r.pattern = some (.custom kind path) → kind ≠ "" → c.Resolves request path →
      CanBind request r

/-- The types of a method stand for messages, and each of its rules binds the request. -/
structure CanLink (package : String) (m : MethodDecl) : Prop where
  request : ∃ request, c.message package m.inputType = .ok request ∧
    ∀ r ∈ m.rules, c.CanBind request r
  response : ∃ response, c.message package m.outputType = .ok response

/-- What is said against the variables of a path. -/
def pathFaults (request : MessageEntry) (path : String) : List Fault :=
  (pathVariables path).flatMap fun name => faults (c.fieldPath request name)

/-- What is said against a rule. -/
def ruleFaults (request : MessageEntry) (r : HttpRule) : List Fault :=
  match r.pattern with
  | none => [.missingPattern]
  | some (.standard _ path) => c.pathFaults request path
  | some (.custom kind path) =>
      if kind = "" then [.missingKind path] else c.pathFaults request path

/-- What is said against a method: the types come before the rules. -/
def methodFaults (package : String) (m : MethodDecl) : List Fault :=
  faults (c.message package m.inputType) ++ faults (c.message package m.outputType) ++
    (c.message package m.inputType).toOption.toList.flatMap fun request =>
      m.rules.flatMap (c.ruleFaults request)

/-- What is said against the methods of a file. -/
def fileFaults (f : FileDecl) : List Fault := f.methods.flatMap (c.methodFaults f.packageName)

variable {c}

theorem pathFaults_eq_nil_iff {request : MessageEntry} {path : String} :
    c.pathFaults request path = [] ↔ c.Resolves request path := by
  simp only [pathFaults, List.flatMap_eq_nil_iff, faults_eq_nil_iff, Resolves]

theorem ruleFaults_eq_nil_iff {request : MessageEntry} {r : HttpRule} :
    c.ruleFaults request r = [] ↔ c.CanBind request r := by
  unfold ruleFaults
  constructor
  · intro sound
    split at sound
    · cases sound
    · rename_i verb path pattern
      exact .standard pattern (pathFaults_eq_nil_iff.mp sound)
    · rename_i kind path pattern
      split at sound
      · cases sound
      · rename_i named
        exact .custom pattern named (pathFaults_eq_nil_iff.mp sound)
  · intro binds
    cases binds with
    | standard pattern resolves =>
        rw [pattern]
        exact pathFaults_eq_nil_iff.mpr resolves
    | custom pattern named resolves =>
        rw [pattern]
        exact (if_neg named).trans (pathFaults_eq_nil_iff.mpr resolves)

/-- Nothing is said against a method if and only if it can be linked. -/
theorem methodFaults_eq_nil_iff {package : String} {m : MethodDecl} :
    c.methodFaults package m = [] ↔ c.CanLink package m := by
  rw [methodFaults, List.append_eq_nil_iff, List.append_eq_nil_iff, faults_eq_nil_iff,
    faults_eq_nil_iff]
  constructor
  · rintro ⟨⟨⟨request, taken⟩, response⟩, rules⟩
    refine ⟨⟨request, taken, ?_⟩, response⟩
    intro r member
    rw [taken] at rules
    simp only [Except.toOption, Option.toList_some, List.flatMap_cons, List.flatMap_nil,
      List.append_nil, List.flatMap_eq_nil_iff] at rules
    exact ruleFaults_eq_nil_iff.mp (rules r member)
  · rintro ⟨⟨request, taken, rules⟩, response⟩
    refine ⟨⟨⟨request, taken⟩, response⟩, ?_⟩
    rw [taken]
    simp only [Except.toOption, Option.toList_some, List.flatMap_cons, List.flatMap_nil,
      List.append_nil, List.flatMap_eq_nil_iff]
    exact fun r member => ruleFaults_eq_nil_iff.mpr (rules r member)

theorem fileFaults_eq_nil_iff {f : FileDecl} :
    c.fileFaults f = [] ↔ ∀ m ∈ f.methods, c.CanLink f.packageName m := by
  simp only [fileFaults, List.flatMap_eq_nil_iff, methodFaults_eq_nil_iff]

section Reports

variable (c)

theorem reportsFirst_linkRule (request : MessageEntry) (r : HttpRule) :
    ReportsFirst (c.linkRule request r) (c.ruleFaults request r) := by
  have bound {b : HttpBinding} (binding : r.binding = .ok b) :
      ReportsFirst (c.linkRule request r) (c.pathFaults request b.path) := by
    have parameters : ReportsFirst (c.linkParameters request b.path)
        (c.pathFaults request b.path) :=
      ReportsFirst.mapM fun name _ => (ReportsFirst.self _).map _
    rw [linkRule, binding]
    exact parameters.map (LinkedBinding.mk b.verb b.path b.body b.responseBody)
  have failed {fault : Fault} (binding : r.binding = .error fault) :
      ReportsFirst (c.linkRule request r) [fault] := by
    rw [linkRule, binding]
    rfl
  cases pattern : r.pattern with
  | none =>
      simp only [ruleFaults, pattern]
      exact failed (by simp [HttpRule.binding, pattern])
  | some p =>
      cases p with
      | standard verb path =>
          simp only [ruleFaults, pattern]
          exact bound (b := ⟨verb.name, path, r.body, r.responseBody⟩)
            (by simp [HttpRule.binding, pattern])
      | custom kind path =>
          simp only [ruleFaults, pattern]
          split
          · rename_i unnamed
            exact failed (by simp [HttpRule.binding, pattern, unnamed])
          · rename_i named
            exact bound (b := ⟨kind, path, r.body, r.responseBody⟩)
              (by simp [HttpRule.binding, pattern, named])

theorem reportsFirst_linkRules (request : MessageEntry) (m : MethodDecl) :
    ReportsFirst (c.linkRules request m.http) (m.rules.flatMap (c.ruleFaults request)) := by
  unfold linkRules MethodDecl.rules
  cases m.http with
  | none => rfl
  | some r =>
      rw [Option.toList_some, List.flatMap_singleton]
      exact ReportsFirst.mapM fun r _ => c.reportsFirst_linkRule request r

theorem reportsFirst_linkMethod (package : String) (index : Nat) (m : MethodDecl) :
    ReportsFirst (c.linkMethod package index m) (c.methodFaults package m) := by
  unfold linkMethod methodFaults
  rw [List.append_assoc]
  refine (ReportsFirst.self _).bind fun request taken => ?_
  refine (ReportsFirst.self _).bind fun response _ => ?_
  rw [taken]
  simp only [Except.toOption, Option.toList_some, List.flatMap_cons, List.flatMap_nil,
    List.append_nil]
  exact (c.reportsFirst_linkRules request m).map (LinkedMethod.mk m index request response)

theorem reportsFirst_linkMethods (package : String) (index : Nat) (ms : List MethodDecl) :
    ReportsFirst (c.linkMethods package index ms) (ms.flatMap (c.methodFaults package)) := by
  induction ms generalizing index with
  | nil => rfl
  | cons m ms ih =>
      rw [List.flatMap_cons]
      refine (c.reportsFirst_linkMethod package index m).bind fun linked _ => ?_
      exact (ih (index + 1)).map (linked :: ·)

theorem reportsFirst_linkServices (package : String) (index : Nat) (ss : List ServiceDecl) :
    ReportsFirst (c.linkServices package index ss)
      ((ss.flatMap (·.methods)).flatMap (c.methodFaults package)) := by
  induction ss generalizing index with
  | nil => rfl
  | cons s ss ih =>
      rw [List.flatMap_cons, List.flatMap_append]
      refine (c.reportsFirst_linkMethods package 0 s.methods).bind fun methods _ => ?_
      exact (ih (index + 1)).map fun others =>
        if methods.isEmpty then others else ⟨s.name, index, methods⟩ :: others

/-- A file is linked up to the first fault of its methods. -/
theorem reportsFirst_linkFile (entry : FileEntry) :
    ReportsFirst (c.linkFile entry) (c.fileFaults entry.file.decl) :=
  (c.reportsFirst_linkServices _ 0 entry.file.decl.services).map _

end Reports

theorem fileFaults_congr {c d : Catalog} (same : c.messages = d.messages) :
    c.fileFaults = d.fileFaults := by
  have rules : c.ruleFaults = d.ruleFaults := by
    funext request r
    simp only [ruleFaults, pathFaults, fieldPath_congr same]
  have methods : c.methodFaults = d.methodFaults := by
    funext package m
    simp only [methodFaults, message_congr same, rules]
  funext f
  simp only [fileFaults, methods]

section Targets

/-- What is said against a target if its package should be the given one. -/
def targetFaults (c : Catalog) (file? : String → Option FileDecl) (package name : String) :
    List Fault :=
  match file? name with
  | none => [.missingFile name]
  | some f =>
      (if package = f.homePackage then [] else [.inconsistentPackages package f.homePackage]) ++
        c.fileFaults f

/-- The package of the first target that is a file. -/
def homePackage? (file? : String → Option FileDecl) (targets : List String) : Option String :=
  (targets.findSome? file?).map (·.homePackage)

section Reported

variable {fault : Fault}

end Reported

theorem targetFaults_congr {c d : Catalog} (same : c.messages = d.messages) :
    c.targetFaults = d.targetFaults := by
  funext file? package name
  simp only [targetFaults, fileFaults_congr same]

/-- Targets are linked up to the first fault of them all. -/
theorem linkTargets_fault {c : Catalog} {file? : String → Option FileDecl}
    (declared : c.decl? = file?) (first : Option String) (names : List String) :
    (c.linkTargets first names).fault =
      (names.flatMap (c.targetFaults file?
        ((first.or (homePackage? file? names)).getD ""))).head? := by
  induction names generalizing c first with
  | nil => rfl
  | cons name names ih =>
      have lookup := congrFun declared name
      rw [List.flatMap_cons]
      cases found : c.files.get? name with
      | none =>
          rw [decl?, found, Option.map_none] at lookup
          simp [linkTargets, found, targetFaults, ← lookup]
      | some entry =>
          rw [decl?, found, Option.map_some] at lookup
          have home : (first.or (homePackage? file? (name :: names))).getD "" =
              first.getD entry.file.decl.homePackage := by
            rw [homePackage?, List.findSome?_cons, ← lookup]
            cases first <;> rfl
          simp only [linkTargets, found]
          rw [home, targetFaults, ← lookup]
          dsimp only
          split
          · have reports := c.reportsFirst_linkFile entry
            rw [List.nil_append]
            split
            · rename_i fault failure
              rw [ReportsFirst, failure] at reports
              rw [List.head?_append, ← reports]
              rfl
            · rename_i linked success
              have sound := reports.eq_ok_iff.mp ⟨linked, success⟩
              rw [sound, List.nil_append]
              have same : (c.addTarget name linked).targetFaults = c.targetFaults :=
                targetFaults_congr rfl
              have rest := ih (c := c.addTarget name linked) declared
                (some (first.getD entry.file.decl.homePackage))
              rw [same] at rest
              exact rest
          · rfl

theorem linkTargets_cons {c : Catalog} {first : Option String} {name : String}
    {names : List String} (success : (c.linkTargets first (name :: names)).fault = none) :
    ∃ entry linked package, c.files.get? name = some entry ∧ c.linkFile entry = .ok linked ∧
      c.linkTargets first (name :: names) =
        (c.addTarget name linked).linkTargets package names := by
  simp only [linkTargets] at success ⊢
  split at success
  · cases success
  · rename_i entry found
    split at success
    · rename_i one
      split at success
      · cases success
      · rename_i linked linking
        refine ⟨entry, linked, some (first.getD entry.file.decl.homePackage), found, linking, ?_⟩
        rw [if_pos one]
        rfl
    · cases success

/-- Where nothing stops linking, each target is the linked file of its name. -/
theorem targets_linkTargets {c : Catalog} {first : Option String} {names : List String}
    (success : (c.linkTargets first names).fault = none) :
    ∀ name ∈ names, ∃ entry linked, c.files.get? name = some entry ∧
      c.linkFile entry = .ok linked ∧
      (c.linkTargets first names).catalog.targets.get? name = some linked := by
  induction names generalizing c first with
  | nil => simp
  | cons head names ih =>
      obtain ⟨entry, linked, package, found, linking, onward⟩ := linkTargets_cons success
      rw [onward] at success ⊢
      have same : (c.addTarget head linked).linkFile = c.linkFile := linkFile_congr rfl
      have rest := ih success
      rw [same] at rest
      rw [List.forall_mem_cons]
      refine ⟨⟨entry, linked, found, linking, ?_⟩, rest⟩
      rcases get?_targets_linkTargets (c.addTarget head linked) package names head with
        kept | ⟨other, again, registered, relinked, target⟩
      · rw [kept]
        exact (Table.get?_set _ _ _ _).trans (if_pos rfl)
      · have registered : c.files.get? head = some other := registered
        rw [found, Option.some.injEq] at registered
        rw [same, ← registered, linking, Except.ok.injEq] at relinked
        rw [target, relinked]

end Targets

section Loading

theorem load_eq {c : Catalog} (fresh : c.loaded = false) (r : Request) :
    c.load r = ((Outcome.each register c r.files).andThen fun c =>
      c.linkTargets none r.targets).andThen fun c => ⟨{ c with loaded := true }, none⟩ := by
  have notIgnored : ¬ c.loaded = true := by simp [fresh]
  rw [load, if_neg notIgnored]

/-- A load stops where registering or, after that, linking stops. -/
theorem load_fault {c : Catalog} (fresh : c.loaded = false) (r : Request) :
    (c.load r).fault = (Outcome.each register c r.files).fault.or
      ((c.registerAll r).linkTargets none r.targets).fault := by
  rw [load_eq fresh, Outcome.andThen_fault, Outcome.andThen_fault, Option.or_none]
  rfl

/-- What a load to its end leaves is what linking leaves. -/
theorem catalog_load {c : Catalog} (fresh : c.loaded = false) {r : Request}
    (success : (c.load r).fault = none) :
    (c.load r).catalog =
      { ((c.registerAll r).linkTargets none r.targets).catalog with loaded := true } := by
  rw [load_fault fresh, Option.or_eq_none_iff] at success
  obtain ⟨registered, linked⟩ := success
  rw [load_eq fresh, Outcome.andThen_eq registered]
  exact congrArg (·.catalog) (Outcome.andThen_eq linked _)

theorem targets_load {c : Catalog} (fresh : c.loaded = false) {r : Request}
    (success : (c.load r).fault = none) :
    (c.load r).catalog.targets =
      ((c.registerAll r).linkTargets none r.targets).catalog.targets := by
  rw [catalog_load fresh success]

end Loading

end Catalog

end HttpAdapter
