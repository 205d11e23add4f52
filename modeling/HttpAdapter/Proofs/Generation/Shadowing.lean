import HttpAdapter.Proofs.Generation.Imports
import HttpAdapter.Proofs.Generation.Statements

/-!
The names that a generated module binds besides those of its imports, and whether an import shares
one of them.  Those that are the same for every file are reserved, so what is left are the classes
of services and the exceptions that the module reads: `imports_unshadowed_iff`.
-/

namespace HttpAdapter

open Catalog Text

/-- Lines, each with the names that it binds. -/
abbrev Bindings := List (String × List String)

/-- The lines of bindings. -/
def Bindings.lines (b : Bindings) : List String := b.map (·.1)

/-- The names of bindings. -/
def Bindings.names (b : Bindings) : List String := b.flatMap (·.2)

/-- What a module binds in front of its imports. -/
def headBindings : ModuleKind → Bindings
  | .adapter => [("from protoc_gen_httprpc.codec import Codec", ["Codec"])]
  | .router =>
      [("from typing import Any, Callable, Dict, Optional",
        ["Any", "Callable", "Dict", "Optional"]),
       ("from protoc_gen_httprpc.codec import Codec, CodecBuilder", ["Codec", "CodecBuilder"])]

/-- What a module binds between its imports and its services. -/
def interludeBindings : ModuleKind → Bindings
  | .adapter => []
  | .router =>
      [("Handler = Callable[[Any, Any], None]", ["Handler"]),
       ("class Options:", ["Options"]),
       ("def with_routes(routes: Dict[str, Optional[Handler]]):", ["with_routes"]),
       ("def with_swagger():", ["with_swagger"])]

/-- The classes that a module has for a service. -/
def LinkedService.classNames (s : LinkedService) : ModuleKind → List String
  | .adapter => ["HTTP" ++ s.name ++ "Server"]
  | .router => [s.name ++ "Router", "_HTTP" ++ s.name ++ "Server"]

/-- What a module binds for a service. -/
def LinkedService.bindings (s : LinkedService) (kind : ModuleKind) : Bindings :=
  (s.classNames kind).map fun n => ("class " ++ n ++ ":", [n])

/-- The classes that a module has for the services of a file. -/
def TargetFile.classNames (f : TargetFile) (kind : ModuleKind) : List String :=
  f.exposed.flatMap (·.classNames kind)

/-- What a handler binds: its parameters and its variables. -/
def LinkedMethod.bindingsOf (m : LinkedMethod) (requestContext : Bool) : Bindings :=
  [("    def " ++ m.decl.name ++ "(self, request, response):", ["self", "request", "response"]),
   ("        arg = " ++ m.request.className ++ "()", ["arg"]),
   ("        except Exception as e:", ["e"]),
   ("            grpc_resp = self.srv." ++ m.decl.name ++ "(arg, " ++
      (if requestContext then "request" else "None") ++ ")", ["grpc_resp"]),
   ("        except Exception as e:", ["e"])]

/-- The exceptions that a module reads from the language. -/
def builtinNames : ModuleKind → List String
  | .adapter => ["Exception"]
  | .router => ["Exception", "ValueError", "LookupError"]

section Lines

variable (comments : Comments) (requestContext : Bool)

/-- The statements of the module for a service are its classes. -/
theorem statements_service (kind : ModuleKind) (s : LinkedService) :
    Statements (s.lines comments requestContext kind) (s.bindings kind).lines := by
  have own := Statements.empty (.empty
    (statements_class comments requestContext (s.className kind) s))
  cases kind with
  | adapter => exact own
  | router =>
      have table : Statements (s.served.map fun m => routeLine s.name (m.outline comments s.index))
          [] := .indented _ fun _ => .longer _ (.longer _ (.longer _ (.longer _ (.literal _))))
      have dispatch := Statements.empty (.empty (statements_dispatch (s.outline comments) table))
      have router : "class " ++ s.name ++ "Router:" = "class " ++ (s.name ++ "Router") ++ ":" := by
        rw [← String.toList_inj]
        simp
      have both := dispatch.append own
      rw [LinkedService.outline, router] at both
      exact both

theorem statements_interlude (kind : ModuleKind) :
    Statements (interlude kind) (interludeBindings kind).lines := by
  cases kind with
  | adapter => exact .nil
  | router =>
      repeat
        first
        | apply Statements.nil
        | apply Statements.empty
        | apply Statements.inner (.literal _)
        | apply Statements.statement (by decide) (.literal _)

/-- The statements of a module are those in front of its imports, the imports, those behind them
    and the classes of its services. -/
theorem filter_isStatement_lines (f : TargetFile) (kind : ModuleKind) :
    (f.lines kind requestContext).filter isStatement =
      (headBindings kind).lines ++ f.modules.map (·.importStatement) ++
        (interludeBindings kind).lines ++ Bindings.lines (f.exposed.flatMap (·.bindings kind)) := by
  have header : Statements (f.outline false).headerLines [] :=
    .comment (.literal _) (.comment (.longer _ (.literal _))
      (.comment (.longer _ (.literal _)) .nil))
  have codec : Statements (runtimeImports kind) (headBindings kind).lines := by
    cases kind with
    | adapter => exact .statement (by decide) (.literal _) (.empty .nil)
    | router =>
        exact .statement (by decide) (.literal _) (.empty
          (.statement (by decide) (.literal _) (.empty .nil)))
  have services : Statements (f.exposed.flatMap (·.lines f.comments requestContext kind))
      (Bindings.lines (f.exposed.flatMap (·.bindings kind))) := by
    delta Bindings.lines
    rw [List.map_flatMap]
    exact Statements.flatMap fun s _ => statements_service f.comments requestContext kind s
  have all := (((header.append codec).append (statements_imports f.modules)).append
    (statements_interlude kind)).append services
  exact all.filter_eq

/-- The lines of what a handler binds stand in it. -/
theorem bindingsOf_sublist_handler (service : Nat) (m : LinkedMethod) :
    (m.bindingsOf requestContext).lines.Sublist (m.lines comments requestContext service) := by
  have front : List.Sublist ["    def " ++ m.decl.name ++ "(self, request, response):"]
      ["    def " ++ m.decl.name ++ "(self, request, response):", "        \"\"\""] :=
    .cons_cons _ (.cons _ .slnil)
  rw [LinkedMethod.lines, HandlerOutline.lines, List.append_assoc, List.append_assoc]
  refine List.Sublist.append front (List.Sublist.trans ?_ (List.sublist_append_right _ _))
  refine List.Sublist.trans ?_ (List.sublist_append_right _ _)
  -- The assignments and the two handlers of exceptions, in the order in which they stand.
  exact .cons _ (.cons_cons _ (.cons _ (.cons _ (.cons_cons _ (.cons _ (.cons _ (.cons _ (.cons _
    (.cons_cons _ (.cons_cons _ (.cons _ (.cons _ (.cons _ (.cons _ .slnil))))))))))))))

end Lines

/-- The names that a module binds at its top level besides its imports. -/
def TargetFile.ownNames (f : TargetFile) (kind : ModuleKind) : List String :=
  (headBindings kind).names ++ (interludeBindings kind).names ++
    Bindings.names (f.exposed.flatMap (·.bindings kind))

/-- The names that stand for something else than an import, somewhere in a module where imports
    are used. -/
def TargetFile.otherNames (f : TargetFile) (kind : ModuleKind) (requestContext : Bool) :
    List String :=
  f.ownNames kind ++ f.handled.flatMap (fun h => (h.bindingsOf requestContext).names) ++
    builtinNames kind

theorem ownNames_eq (f : TargetFile) (kind : ModuleKind) :
    f.ownNames kind =
      (headBindings kind).names ++ (interludeBindings kind).names ++ f.classNames kind := by
  have classes : Bindings.names (f.exposed.flatMap (·.bindings kind)) = f.classNames kind := by
    delta Bindings.names TargetFile.classNames
    rw [List.flatMap_assoc]
    simp [LinkedService.bindings, List.flatMap_map]
  rw [TargetFile.ownNames, classes]

/-- What a module binds in the same way for every file is reserved. -/
theorem fixed_subset_reservedNames (kind : ModuleKind) :
    (headBindings kind).names ++ (interludeBindings kind).names ⊆ reservedNames := by
  cases kind <;> simp [headBindings, interludeBindings, Bindings.names, reservedNames]

theorem handler_subset_reservedNames (m : LinkedMethod) (requestContext : Bool) :
    (m.bindingsOf requestContext).names ⊆ reservedNames := by
  have names : (m.bindingsOf requestContext).names =
      ["self", "request", "response", "arg", "e", "grpc_resp", "e"] := rfl
  simp [names, reservedNames]

theorem getLast?_className {f : TargetFile} {kind : ModuleKind} {n : String}
    (member : n ∈ f.classNames kind) : n.toList.getLast? = some 'r' := by
  have server (front : String) : (front ++ "Server").toList.getLast? = some 'r' := by
    rw [String.toList_append, List.getLast?_append]
    rfl
  obtain ⟨s, -, named⟩ := List.mem_flatMap.mp member
  cases kind with
  | adapter =>
      rw [List.mem_singleton.mp named]
      exact server ("HTTP" ++ s.name)
  | router =>
      rcases List.mem_pair.mp named with rfl | rfl
      · rw [String.toList_append, List.getLast?_append]
        rfl
      · exact server ("_HTTP" ++ s.name)

theorem getLast?_builtinName {kind : ModuleKind} : ∀ n ∈ builtinNames kind,
    n.toList.getLast? = some 'r' ∨ n.toList.getLast? = some 'n' := by
  cases kind <;> simp [builtinNames]

/-- No variant of a name is the class of a service or an exception: it ends in a digit. -/
theorem numbered_not_mem (f : TargetFile) (kind : ModuleKind) (name : String) (i : Nat) :
    numbered name i ∉ f.classNames kind ++ builtinNames kind := by
  obtain ⟨c, last, digit⟩ := getLast?_numbered name i
  intro member
  have letter : c = 'r' ∨ c = 'n' := by
    rcases List.mem_append.mp member with service | builtin
    · have ends := getLast?_className service
      rw [last, Option.some.injEq] at ends
      exact Or.inl ends
    · simpa only [last, Option.some.injEq] using getLast?_builtinName _ builtin
  rcases letter with rfl | rfl
  · exact absurd digit (by decide)
  · exact absurd digit (by decide)

section Run

variable (importPrefix : String) (packageMap : Table String) (commands : List Command)
  {name : String} {f : TargetFile}

/-- An imported module is one that a handler takes its argument from, and the module of a
    registered file. -/
theorem exists_registered_of_mem_modules
    (found : ((empty importPrefix packageMap).run commands).targets.get? name = some f)
    {m : ImportedModule} (imported : m ∈ f.modules) :
    ∃ h ∈ f.handled, h.module = m ∧ ∃ entry,
      ((empty importPrefix packageMap).run commands).files.get? h.request.file.name = some entry ∧
        entry.file = h.request.file := by
  obtain ⟨h, handled, same⟩ := List.mem_map.mp ((distinct_modules f).subset imported)
  exact ⟨h, handled, same, registered_of_handled importPrefix packageMap commands found h handled⟩

/-- An import shares a name with what its module binds or reads otherwise if and only if it has
    the name that its file prefers, and that is the class of a service or an exception. -/
theorem mem_otherNames_iff
    (found : ((empty importPrefix packageMap).run commands).targets.get? name = some f)
    (kind : ModuleKind) (requestContext : Bool) {m : ImportedModule} (imported : m ∈ f.modules) :
    m.boundName ∈ f.otherNames kind requestContext ↔
      m.variant = none ∧ m.name ∈ f.classNames kind ++ builtinNames kind := by
  obtain ⟨h, -, rfl, entry, registered, same⟩ :=
    exists_registered_of_mem_modules importPrefix packageMap commands found imported
  have settled := namesSettled_run importPrefix packageMap commands
  obtain ⟨named, -⟩ := settled.modules _ entry registered
  have notReserved := settled.not_mem_reservedNames registered
  rw [same] at named notReserved
  have split : h.module.boundName ∈ f.otherNames kind requestContext ↔
      h.module.boundName ∈ f.classNames kind ++ builtinNames kind := by
    simp only [TargetFile.otherNames, ownNames_eq, List.mem_append]
    constructor
    · rintro (((fixed | service) | handler) | builtin)
      · exact absurd (fixed_subset_reservedNames kind (List.mem_append.mpr fixed)) notReserved
      · exact Or.inl service
      · obtain ⟨g, -, own⟩ := List.mem_flatMap.mp handler
        exact absurd (handler_subset_reservedNames g requestContext own) notReserved
      · exact Or.inr builtin
    · rintro (service | builtin)
      · exact Or.inl (Or.inl (Or.inr service))
      · exact Or.inr builtin
  rw [split]
  cases variant : h.module.variant with
  | none => simp [ImportedModule.boundName, variant]
  | some v =>
      obtain ⟨-, i, rfl, -⟩ := named.first v variant
      have bound : h.module.boundName = numbered h.module.name i := by
        rw [ImportedModule.boundName, variant]
        rfl
      rw [bound]
      exact ⟨fun member => absurd member (numbered_not_mem f kind _ i), fun both => by simp at both⟩

/-- In every catalog that commands lead to: besides its import lines, the statements of a module
    bind the names in its lists, as the lines of its handlers do.  No import has one of those names
    or that of an exception the module reads, if and only if none has, by preference of its file
    and not as a variant, the name of a class for a service or of such an exception. -/
theorem imports_unshadowed_iff
    (found : ((empty importPrefix packageMap).run commands).targets.get? name = some f)
    (kind : ModuleKind) (requestContext : Bool) :
    (f.lines kind requestContext).filter isStatement =
      (headBindings kind).lines ++ f.modules.map (·.importStatement) ++
        (interludeBindings kind).lines ++ Bindings.lines (f.exposed.flatMap (·.bindings kind)) ∧
    (∀ s ∈ f.exposed, ∀ h ∈ s.served,
      (h.bindingsOf requestContext).lines.Sublist (h.lines f.comments requestContext s.index) ∧
      h.lines f.comments requestContext s.index <:+: f.lines kind requestContext) ∧
    (∀ m ∈ f.modules, ImportsAs m.path m.boundName m.importStatement ∧
      (∃ h ∈ f.handled, h.module = m ∧ m.name = h.request.file.decl.preferredName) ∧
      (m.boundName ∈ f.otherNames kind requestContext ↔
        m.variant = none ∧ m.name ∈ f.classNames kind ++ builtinNames kind)) ∧
    ((∀ m ∈ f.modules, m.boundName ∉ f.otherNames kind requestContext) ↔
      ∀ m ∈ f.modules, m.variant = none → m.name ∉ f.classNames kind ++ builtinNames kind) := by
  have exact {m : ImportedModule} (imported : m ∈ f.modules) :=
    mem_otherNames_iff importPrefix packageMap commands found kind requestContext imported
  refine ⟨filter_isStatement_lines requestContext f kind, ?_, ?_, ?_⟩
  · intro s exposed h served
    exact ⟨bindingsOf_sublist_handler f.comments requestContext s.index h,
      handlerLines_infix_lines exposed served kind requestContext⟩
  · intro m imported
    obtain ⟨h, handled, same, entry, registered, own⟩ :=
      exists_registered_of_mem_modules importPrefix packageMap commands found imported
    have settled := settled_of_handled importPrefix packageMap commands found
    have formed := settled.formed m (same ▸ List.mem_map_of_mem handled)
    have prefers := preferredName_run importPrefix packageMap commands registered
    rw [own] at prefers
    exact ⟨formed.importsAs, ⟨h, handled, same, same ▸ prefers⟩, exact imported⟩
  · constructor
    · intro apart m imported own member
      exact apart m imported ((exact imported).mpr ⟨own, member⟩)
    · intro apart m imported shared
      obtain ⟨own, member⟩ := (exact imported).mp shared
      exact apart m imported own member

end Run

/-- Of the packages of three files, one is a name of generated code, and one is an exception but
    already taken: no import is named like something else in the module. -/
theorem imports_unshadowed_three_packages :
    let get (path : String) : Option HttpRule := some ⟨some (.standard .get path), "", "", []⟩
    let first : FileDecl := ⟨"a.proto", some "arg", none, none, [⟨"L", [], [], []⟩], [],
      [⟨"S", [⟨"A", "L", "L", false, false, get "/a"⟩, ⟨"B", ".p.M", "L", false, false, get "/b"⟩,
        ⟨"C", ".Exception.N", "L", false, false, get "/c"⟩]⟩], []⟩
    let second : FileDecl := ⟨"b.proto", some "p", none, none, [⟨"M", [], [], []⟩], [], [], []⟩
    let third : FileDecl :=
      ⟨"c.proto", some "Exception", none, none, [⟨"N", [], [], []⟩], [], [], []⟩
    let c := (empty "" []).run
      [.reserve "Exception" "z.a_pb2", .load ⟨"", ["a.proto"], [first, second, third]⟩]
    ∃ f, c.targets.get? "a.proto" = some f ∧
      f.modules.map (·.boundName) = ["arg_0", "p", "Exception_0"] ∧
      ∀ m ∈ f.modules, m.boundName ∉ f.otherNames .router true := by
  intro get first second third c
  have facts : (c.targets.get? "a.proto").any fun f =>
      f.modules.map (·.boundName) = ["arg_0", "p", "Exception_0"] ∧
        ∀ m ∈ f.modules, m.variant = none →
          m.name ∉ f.classNames .router ++ builtinNames .router := by
    decide +kernel
  obtain ⟨f, found, facts⟩ := (Option.any_eq_true _ _).mp facts
  obtain ⟨names, apart⟩ := of_decide_eq_true facts
  obtain ⟨-, -, -, exact⟩ := imports_unshadowed_iff "" []
    [.reserve "Exception" "z.a_pb2", .load ⟨"", ["a.proto"], [first, second, third]⟩] found
    .router true
  exact ⟨f, found, names, exact.mpr apart⟩

/-- A package is named like the class for a service of the file, another one like an exception:
    both are imported by these names. -/
theorem imports_shadow_class_and_exception :
    let get (path : String) : Option HttpRule := some ⟨some (.standard .get path), "", "", []⟩
    let first : FileDecl := ⟨"a.proto", some "Exception", none, none, [⟨"M", [], [], []⟩], [],
      [⟨"S", [⟨"A", "M", "M", false, false, get "/a"⟩,
        ⟨"B", ".HTTPSServer.N", "M", false, false, get "/b"⟩]⟩], []⟩
    let second : FileDecl :=
      ⟨"b.proto", some "HTTPSServer", none, none, [⟨"N", [], [], []⟩], [], [], []⟩
    let c := (empty "" []).run [.load ⟨"", ["a.proto"], [first, second]⟩]
    ∃ f, c.targets.get? "a.proto" = some f ∧
      f.modules.map (·.importStatement) =
        ["import a_pb2 as Exception", "import b_pb2 as HTTPSServer"] ∧
      "HTTPSServer" ∈ f.ownNames .adapter ∧ "Exception" ∈ builtinNames .adapter ∧
      ∀ m ∈ f.modules, m.boundName ∈ f.otherNames .adapter false := by
  intro get first second c
  have facts : (c.targets.get? "a.proto").any fun f =>
      f.modules.map (·.importStatement) =
        ["import a_pb2 as Exception", "import b_pb2 as HTTPSServer"] ∧
      "HTTPSServer" ∈ f.ownNames .adapter ∧ "Exception" ∈ builtinNames .adapter ∧
      ∀ m ∈ f.modules, m.boundName ∈ f.otherNames .adapter false := by
    decide +kernel
  obtain ⟨f, found, facts⟩ := (Option.any_eq_true _ _).mp facts
  exact ⟨f, found, of_decide_eq_true facts⟩

end HttpAdapter
