import HttpAdapter.Proofs.Catalog.Origin
import HttpAdapter.Proofs.Generation.Layout
import HttpAdapter.Proofs.Rendering.Docstring

/-!
The docstrings of a generated module.  That of a service stays between its quotes whatever its
comment holds.  That of a handler does so if and only if the lines with a verb and a path do: the
verb is the one text in it that is not escaped, `readsAsLiteral_methodDocstring`.
-/

namespace HttpAdapter

open Catalog Grammar Text

/-- The text between the quotes in the class of a service. -/
def LinkedService.docstring (comments : Comments) (s : LinkedService) : String :=
  "\n" ++
    textOfLines ((s.outline comments).comment.map fun line => "    " ++ escapeDocstring line) ++
    "    "

/-- The text between the quotes in the handler of a method, declared in a service of that
    number. -/
def LinkedMethod.docstring (comments : Comments) (service : Nat) (m : LinkedMethod) : String :=
  "\n" ++ textOfLines (m.docLines comments service) ++ "        "

/-- The line of a docstring that shows the verb and the path of a binding. -/
def LinkedBinding.verbLine (b : LinkedBinding) : String :=
  upper b.verb ++ " " ++ escapeDocstring b.path ++ "\n"

section Literals

variable [Interpreter]

/-- Lines between triple quotes stay there if and only if each of them leaves the reader where it
    is. -/
theorem readsAsLiteral_lines {lines : List String} {indent : String} (plain : IsPlain indent) :
    ReadsAsLiteral ("\n" ++ textOfLines lines ++ indent).toList ↔
      ∀ line ∈ lines, LeavesReader line := by
  have lineEnd : "\n".toList = ['\n'] := rfl
  rw [readsAsLiteral_iff, String.toList_append, String.toList_append, lineEnd, List.append_assoc,
    List.singleton_append, readLiteral_cons]
  change readLiteral .start ((textOfLines lines).toList ++ indent.toList) = _ ↔ _
  rw [readLiteral_append, toList_textOfLines, readLiteral_lines]
  simp only [List.forall_mem_map]
  split
  · rename_i each
    rw [Option.bind_some, readLiteral_of_plain plain.ne]
    exact ⟨fun _ => each, fun _ => rfl⟩
  · rename_i broken
    exact ⟨fun stop => by simp at stop, fun each => absurd each broken⟩

/-- The line with a verb stays in a docstring of its own if and only if it does among others. -/
theorem readsAsLiteral_verbLine {b : LinkedBinding} :
    ReadsAsLiteral b.verbLine.toList ↔
      LeavesReader (upper b.verb ++ " " ++ escapeDocstring b.path) := by
  rw [readsAsLiteral_iff, LinkedBinding.verbLine, String.toList_append]
  rfl

/-- A service has nothing in its docstring but escaped lines. -/
theorem readsAsLiteral_serviceDocstring (comments : Comments) (s : LinkedService) :
    ReadsAsLiteral (s.docstring comments).toList := by
  rw [LinkedService.docstring, readsAsLiteral_lines (by decide)]
  exact leavesReader_comment (by decide) _

/-- A handler whose parameters are plain has nothing in its docstring that could close it, but for
    the lines that begin with a verb. -/
theorem leavesReader_docLines (comments : Comments) (service : Nat) {m : LinkedMethod}
    (plain : ∀ b ∈ m.bindings, ∀ p ∈ b.parameters,
      IsPlain p.name ∧ IsPlain (FieldPath.access p.fields argumentName)) :
    (∀ line ∈ m.docLines comments service, LeavesReader line) ↔
      ∀ b ∈ m.bindings, LeavesReader (upper b.verb ++ " " ++ escapeDocstring b.path) := by
  constructor
  · intro each b binding
    have line := each ("        " ++ (upper b.verb ++ " " ++ escapeDocstring b.path)) (by
      refine List.mem_append_right _ (List.mem_flatMap.mpr ⟨b, binding, ?_⟩)
      simp [RouteOutline.lines, LinkedBinding.outline, String.append_assoc])
    exact (leavesReader_append (IsPlain.ne (by decide))).mp line
  · intro verbs line member
    rcases List.mem_append.mp member with comment | route
    · exact leavesReader_comment (by decide) _ line comment
    · obtain ⟨b, binding, inRoute⟩ := List.mem_flatMap.mp route
      simp only [RouteOutline.lines, LinkedBinding.outline, List.mem_append, List.mem_cons,
        List.not_mem_nil, or_false, List.map_map, List.mem_map] at inRoute
      rcases inRoute with (rfl | rfl) | ⟨p, parameter, rfl⟩
      · rfl
      · rw [String.append_assoc, String.append_assoc, leavesReader_append (IsPlain.ne (by decide)),
          ← String.append_assoc]
        exact verbs b binding
      · obtain ⟨name, value⟩ := plain b binding p parameter
        apply leavesReader_of_plain
        exact isPlain_append (isPlain_append (isPlain_append (by decide) name) (by decide)) value

/-- A handler whose paths lead through fields with proper names has nothing in its docstring that
    could close it, but for the lines that begin with a verb. -/
theorem readsAsLiteral_methodDocstring (comments : Comments) (service : Nat) {m : LinkedMethod}
    (named : ∀ b ∈ m.bindings, ∀ p ∈ b.parameters,
      FieldPath.render p.fields = p.name ∧ ∀ f ∈ p.fields, isDeclaredName f.name = true) :
    ReadsAsLiteral (m.docstring comments service).toList ↔
      ∀ b ∈ m.bindings, ReadsAsLiteral b.verbLine.toList := by
  rw [LinkedMethod.docstring, readsAsLiteral_lines (by decide)]
  simp only [readsAsLiteral_verbLine]
  apply leavesReader_docLines
  intro b binding p parameter
  obtain ⟨spelling, declared⟩ := named b binding p parameter
  have fields : ∀ f ∈ p.fields, isIdentifier f.name.toList = true :=
    fun f inPath => isIdentifier_of_isDeclaredName (declared f inPath)
  exact ⟨spelling ▸ isPlain_render fields, isPlain_pathAccess fields (by decide)⟩

/-- Where no verb holds a backslash, three quotes in a row are what closes the docstring. -/
theorem readsAsLiteral_verbLine_of_no_backslash {b : LinkedBinding}
    (noBackslash : '\\' ∉ b.verb.toList) :
    ReadsAsLiteral b.verbLine.toList ↔ ¬ tripleQuote <:+: (upper b.verb).toList := by
  have absent : '\\' ∉ (upper b.verb).toList := by
    intro member
    exact noBackslash (mem_of_mem_upper (by decide) member)
  obtain ⟨closed, read⟩ := readLiteral_of_no_backslash absent (Nat.zero_le 2)
  rw [List.replicate_zero, List.nil_append] at closed read
  rw [readsAsLiteral_verbLine, LeavesReader, String.append_assoc, String.toList_append,
    List.append_assoc, readLiteral_append]
  change (readLiteral ⟨.plain, 0⟩ _).bind _ = _ ↔ _
  constructor
  · intro stays closes
    rw [closed closes] at stays
    simp at stays
  · intro apart
    obtain ⟨run, read⟩ := read apart
    have blank : readLiteral ⟨.plain, run⟩ " ".toList = some .start := rfl
    rw [read, Option.bind_some, String.toList_append, List.append_assoc, readLiteral_append, blank,
      Option.bind_some]
    exact leavesReader_escapeDocstring b.path

end Literals

/-- A docstring stands in a text behind a line and the quotes that open it, and in front of the
    quotes that close it. -/
def Encloses (text line indent docstring : String) : Prop :=
  ∃ before after, text =
    before ++ (line ++ "\n" ++ indent ++ "\"\"\"") ++ docstring ++ "\"\"\"\n" ++ after

/-- Lines of a text between lines with quotes are what the quotes enclose. -/
theorem encloses_of_infix {lines docLines : List String} {line indent : String}
    (inside : [line, indent ++ "\"\"\""] ++ docLines ++ [indent ++ "\"\"\""] <:+: lines) :
    Encloses (textOfLines lines) line indent ("\n" ++ textOfLines docLines ++ indent) := by
  obtain ⟨before, after, rfl⟩ := inside
  refine ⟨textOfLines before, textOfLines after, ?_⟩
  rw [← String.toList_inj]
  simp [toList_textOfLines]

theorem encloses_serviceDocstring {f : TargetFile} {s : LinkedService} (exposed : s ∈ f.exposed)
    (kind : ModuleKind) (requestContext : Bool) :
    Encloses (textOfLines (f.lines kind requestContext)) ("class " ++ s.className kind ++ ":")
      "    " (s.docstring f.comments) := by
  refine encloses_of_infix (List.IsInfix.trans ?_ (classLines_infix_lines exposed kind _))
  apply List.IsPrefix.isInfix
  simp [LinkedService.classLines, ServiceOutline.headLines, List.cons_prefix_cons]

theorem encloses_methodDocstring {f : TargetFile} {s : LinkedService} (exposed : s ∈ f.exposed)
    {m : LinkedMethod} (served : m ∈ s.served) (kind : ModuleKind) (requestContext : Bool) :
    Encloses (textOfLines (f.lines kind requestContext))
      ("    def " ++ m.decl.name ++ "(self, request, response):") "        "
      (m.docstring f.comments s.index) := by
  refine encloses_of_infix (List.IsInfix.trans ?_
    (handlerLines_infix_lines exposed served kind requestContext))
  apply List.IsPrefix.isInfix
  simp [LinkedMethod.lines, HandlerOutline.lines, LinkedMethod.docLines, LinkedMethod.outline,
    List.cons_prefix_cons]

/-- In every catalog that commands lead to, where fields have proper names: the docstring of a
    service stands between the quotes that open and close it, and so does that of a handler if and
    only if its lines with a verb and a path do.  Those do where no verb holds a backslash and none
    holds three quotes in a row in upper case. -/
theorem docstrings_run [Interpreter] (importPrefix : String) (packageMap : Table String)
    {commands : List Command}
    (named : ∀ r, .load r ∈ commands → ∀ f ∈ r.files, ∀ m, MessageDecl.Within f.messages m →
      ∀ d ∈ m.fields, isDeclaredName d.name = true)
    {name : String} {f : TargetFile}
    (found : ((empty importPrefix packageMap).run commands).targets.get? name = some f)
    (kind : ModuleKind) (requestContext : Bool) :
    ∀ s ∈ f.exposed, ∃ text, f.moduleText kind requestContext = .ok text ∧
      Encloses text ("class " ++ s.className kind ++ ":") "    " (s.docstring f.comments) ∧
      ReadsAsLiteral (s.docstring f.comments).toList ∧
      ∀ m ∈ s.served,
        Encloses text ("    def " ++ m.decl.name ++ "(self, request, response):") "        "
          (m.docstring f.comments s.index) ∧
        (ReadsAsLiteral (m.docstring f.comments s.index).toList ↔
          ∀ b ∈ m.bindings, ReadsAsLiteral b.verbLine.toList) ∧
        ((∀ b ∈ m.bindings, '\\' ∉ b.verb.toList) →
          (ReadsAsLiteral (m.docstring f.comments s.index).toList ↔
            ∀ b ∈ m.bindings, ¬ tripleQuote <:+: (upper b.verb).toList)) := by
  intro s exposed
  refine ⟨_, moduleText_eq (List.ne_nil_of_mem exposed) kind requestContext,
    encloses_serviceDocstring exposed kind requestContext,
    readsAsLiteral_serviceDocstring f.comments s, ?_⟩
  intro m served
  obtain ⟨before, r, after, history⟩ := exists_linkedBy found
  obtain ⟨-, -, parameters⟩ := history.methods (targetsRegistered_empty _ _)
    (consistent_after importPrefix packageMap commands) s (List.mem_of_mem_filter exposed) m
    (List.mem_of_mem_filter served)
  have exact : ReadsAsLiteral (m.docstring f.comments s.index).toList ↔
      ∀ b ∈ m.bindings, ReadsAsLiteral b.verbLine.toList := by
    apply readsAsLiteral_methodDocstring
    intro b binding p parameter
    obtain ⟨-, spelling, fields⟩ := parameters b binding p parameter
    refine ⟨spelling, ?_⟩
    intro field inPath
    obtain ⟨member, held⟩ := fields field inPath
    obtain ⟨decl, declared, same⟩ := List.mem_map.mp member
    rw [← same]
    exact field_of_run named held decl declared
  refine ⟨encloses_methodDocstring exposed served kind requestContext, exact, ?_⟩
  intro noBackslash
  rw [exact]
  exact forall₂_congr fun b binding =>
    readsAsLiteral_verbLine_of_no_backslash (noBackslash b binding)

/-- A verb with three quotes in a row closes the docstring of its handler. -/
theorem docstring_closed_by_verb :
    let _ : Interpreter := .bare
    let rule : HttpRule := ⟨some (.custom "\"\"\"+x()+\"\"\"" "/v1"), "", "", []⟩
    let file : FileDecl := ⟨"a.proto", some "p", none, none, [⟨"M", [], [], []⟩], [],
      [⟨"S", [⟨"Get", "M", "M", false, false, some rule⟩]⟩], []⟩
    let c := (empty "" []).run [.load ⟨"", ["a.proto"], [file]⟩]
    ∃ f s m, c.targets.get? "a.proto" = some f ∧ s ∈ f.exposed ∧ m ∈ s.served ∧
      m.bindings.map (·.verbLine) = ["\"\"\"+X()+\"\"\" /v1\n"] ∧
      ¬ ReadsAsLiteral (m.docstring f.comments s.index).toList := by
  intro _ rule file c
  have broken : (c.targets.get? "a.proto").any fun f => f.exposed.any fun s => s.served.any fun m =>
      m.bindings.map (·.verbLine) = ["\"\"\"+X()+\"\"\" /v1\n"] ∧
        readLiteral .start (m.docstring f.comments s.index).toList ≠ some .start := by
    decide +kernel
  obtain ⟨f, found, broken⟩ := (Option.any_eq_true _ _).mp broken
  obtain ⟨s, exposed, broken⟩ := List.any_eq_true.mp broken
  obtain ⟨m, served, broken⟩ := List.any_eq_true.mp broken
  obtain ⟨line, stops⟩ := of_decide_eq_true broken
  exact ⟨f, s, m, found, exposed, served, line, fun reads => stops (readsAsLiteral_iff.mp reads)⟩

/-- Quotes in a comment and in a path, two in a verb, and a path through a field. -/
theorem docstrings_run_with_quotes :
    let _ : Interpreter := .bare
    let rule : HttpRule :=
      ⟨some (.custom "g\"\"t" "/v1/\"\"\"\"/\x7bid\x7d\\"), "", "", []⟩
    let file : FileDecl := ⟨"a.proto", some "p", none, none,
      [⟨"M", [⟨"id", .string, "", .optional⟩], [], []⟩], [],
      [⟨"S", [⟨"Get", "M", "M", false, false, some rule⟩]⟩],
      [⟨[6, 0, 2, 0], [], "\"\"\" \\N\\", ""⟩]⟩
    let c := (empty "" []).run [.load ⟨"", ["a.proto"], [file]⟩]
    ∃ f s m text, c.targets.get? "a.proto" = some f ∧ s ∈ f.exposed ∧ m ∈ s.served ∧
      f.moduleText .router true = .ok text ∧
      Encloses text "    def Get(self, request, response):" "        "
        (m.docstring f.comments s.index) ∧
      ReadsAsLiteral (m.docstring f.comments s.index).toList := by
  intro _ rule file c
  have named : ∀ r, .load r ∈ [Command.load ⟨"", ["a.proto"], [file]⟩] → ∀ f ∈ r.files, ∀ m,
      MessageDecl.Within f.messages m → ∀ d ∈ m.fields, isDeclaredName d.name = true := by
    intro r loaded f declared m within
    rw [List.mem_singleton, Command.load.injEq] at loaded
    subst loaded
    rw [List.mem_singleton] at declared
    subst declared
    cases within with
    | among member =>
        rw [List.mem_singleton] at member
        subst member
        decide
    | inside member deeper =>
        rw [List.mem_singleton] at member
        subst member
        cases deeper with
        | among member => simp at member
        | inside member => simp at member
  have plain : (c.targets.get? "a.proto").any fun f => f.exposed.any fun s => s.served.any fun m =>
      m.decl.name = "Get" ∧
        ∀ b ∈ m.bindings, '\\' ∉ b.verb.toList ∧ ¬ tripleQuote <:+: (upper b.verb).toList := by
    decide +kernel
  obtain ⟨f, found, plain⟩ := (Option.any_eq_true _ _).mp plain
  obtain ⟨s, exposed, plain⟩ := List.any_eq_true.mp plain
  obtain ⟨m, served, plain⟩ := List.any_eq_true.mp plain
  obtain ⟨name, verbs⟩ := of_decide_eq_true plain
  obtain ⟨text, laid, -, -, methods⟩ := docstrings_run "" [] named found .router true s exposed
  obtain ⟨encloses, -, exact⟩ := methods m served
  rw [name] at encloses
  exact ⟨f, s, m, text, found, exposed, served, laid, encloses,
    (exact fun b binding => (verbs b binding).1).mpr fun b binding => (verbs b binding).2⟩

end HttpAdapter
