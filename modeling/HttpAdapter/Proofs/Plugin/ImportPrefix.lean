import HttpAdapter.Proofs.Catalog.Relocation
import HttpAdapter.Proofs.Generation.Blocks
import HttpAdapter.Proofs.ModuleNames
import HttpAdapter.Proofs.Plugin.Targets

/-!
What the import prefix changes.  The answers to two requests that are the same but for the prefix
are the same line by line, but for the statements that import modules of messages:
`reply_import_prefix`.
-/

namespace HttpAdapter

open Text

section Lines

variable {ps qs : List String}

/-- Two statements that import one module of messages as one name, from below two prefixes. -/
def Reprefixed (ps qs : List String) (text text' : String) : Prop :=
  ∃ rest name, IsMessagePath rest ∧ ImportsAs (join '.' (ps ++ rest)) name text ∧
    ImportsAs (join '.' (qs ++ rest)) name text'

/-- The first line of a text, without the white space at its end. -/
def firstLine (text : String) : List Char := trimEndChars (text.toList.takeWhile (· ≠ '\n'))

/-- One line of two files that are the same but for a prefix. -/
inductive SameLine (ps qs : List String) : List Char → List Char → Prop
  | same (line : List Char) : SameLine ps qs line line
  | imports {text text' : String} :
      Reprefixed ps qs text text' → SameLine ps qs (firstLine text) (firstLine text')

/-- Two generated files are the same but for a prefix: they are laid out from lines that differ in
    the import statements, and are the same line by line.  A statement is one line, or the first of
    several where a name in it holds a line end. -/
structure GeneratedFile.SameButPrefix (ps qs : List String) (a b : GeneratedFile) : Prop where
  name : a.name = b.name
  layout : ∃ front imports imports' back, List.Forall₂ (Reprefixed ps qs) imports imports' ∧
    a.content.toList = tidyChars (textOfLines (front ++ imports ++ back)).toList ∧
    b.content.toList = tidyChars (textOfLines (front ++ imports' ++ back)).toList
  lines : List.Forall₂ (SameLine ps qs) (a.content.toList.splitOn '\n')
    (b.content.toList.splitOn '\n')

theorem toList_join_concat {front : List String} (full : front ≠ []) (last : String) :
    (join '.' (front ++ [last])).toList = (join '.' front).toList ++ '.' :: last.toList := by
  obtain ⟨first, others, rfl⟩ := List.exists_cons_of_ne_nil full
  rw [List.cons_append, toList_join_cons, toList_join_cons, List.flatMap_append,
    List.flatMap_singleton, List.append_assoc]

/-- The statement that imports a module: the last component of its path, from the others. -/
theorem importStatement_eq {m : ImportedModule} {front : List String} {last : String}
    (components : ∀ part ∈ front, IsComponent part) (component : IsComponent last)
    (path : m.path = join '.' (front ++ [last])) :
    m.importStatement =
      (if front = [] then "import " else "from " ++ join '.' front ++ " import ") ++
        (last ++ " as " ++ m.boundName) := by
  by_cases none : front = []
  · subst none
    rw [List.nil_append, join_singleton] at path
    rw [ImportedModule.importStatement, path, cutLast_of_not_mem component.2, if_pos rfl]
    simp only [String.append_assoc]
  · have letters := toList_join_concat none last
    obtain ⟨first, others, rfl⟩ := List.exists_cons_of_ne_nil none
    obtain ⟨c, cs, start⟩ := List.exists_cons_of_ne_nil (components first List.mem_cons_self).1
    have package : (join '.' (first :: others)).toList =
        c :: (cs ++ others.flatMap ('.' :: ·.toList)) := by
      rw [toList_join_cons, start, List.cons_append]
    rw [ImportedModule.importStatement, path, letters, package, cutLast_append_cons _ component.2,
      if_neg none]
    dsimp only
    rw [← package, String.ofList_toList, String.ofList_toList]
    simp only [String.append_assoc]

theorem lineEnd_not_mem_join {parts : List String} (oneLine : ∀ part ∈ parts, '\n' ∉ part.toList) :
    '\n' ∉ (join '.' parts).toList := by
  rw [toList_join, mem_intercalate (by decide)]
  rintro ⟨_, member, inPart⟩
  obtain ⟨part, inParts, rfl⟩ := List.mem_map.mp member
  exact oneLine part inParts inPart

/-- What stands behind the prefix in an import statement depends on the rest of the path and on the
    name only. -/
theorem exists_back {rest : List String} (full : rest ≠ [])
    (components : ∀ part ∈ rest, IsComponent part) (name : String) :
    ∃ back : List Char, ∀ ps : List String, (∀ part ∈ ps, IsComponent part) →
      (∀ part ∈ ps, '\n' ∉ part.toList) → ∀ m : ImportedModule, m.path = join '.' (ps ++ rest) →
      m.boundName = name → ∃ front c cs, m.importStatement.toList = front ++ back ∧
        front = c :: cs ∧ isBlank c = false ∧ '\n' ∉ front := by
  obtain rfl | ⟨init, last, rfl⟩ := List.eq_nil_or_concat' rest
  · exact absurd rfl full
  rw [List.forall_mem_append, List.forall_mem_singleton] at components
  obtain ⟨inits, component⟩ := components
  by_cases alone : init = []
  · subst alone
    refine ⟨(last ++ " as " ++ name).toList, ?_⟩
    rintro ps parts oneLine m path rfl
    rw [List.nil_append] at path
    rw [importStatement_eq parts component path, String.toList_append]
    split
    · exact ⟨_, 'i', "mport ".toList, rfl, rfl, by decide, by decide⟩
    · refine ⟨_, 'f', "rom ".toList ++ (join '.' ps).toList ++ " import ".toList, rfl, ?_,
        by decide, ?_⟩
      · simp
      · simpa using lineEnd_not_mem_join oneLine
  · refine ⟨(join '.' init).toList ++ " import ".toList ++ (last ++ " as " ++ name).toList, ?_⟩
    rintro ps parts oneLine m path rfl
    rw [← List.append_assoc] at path
    have both : ∀ part ∈ ps ++ init, IsComponent part := List.forall_mem_append.mpr ⟨parts, inits⟩
    have some : ps ++ init ≠ [] := List.append_ne_nil_of_right_ne_nil ps alone
    refine ⟨"from ".toList ++ ps.flatMap (·.toList ++ ['.']), 'f',
      "rom ".toList ++ ps.flatMap (·.toList ++ ['.']), ?_, rfl, by decide, ?_⟩
    · rw [importStatement_eq both component path, if_neg some]
      have letters : (join '.' (ps ++ init)).toList =
          ps.flatMap (·.toList ++ ['.']) ++ (join '.' init).toList := by
        rw [toList_join, List.map_append, intercalate_append _ (by simpa using alone),
          List.flatMap_map, toList_join]
      simp only [String.toList_append, letters, List.append_assoc]
    · simpa using fun part member => oneLine part member

theorem firstLine_ne_nil {path name text : String} (imports : ImportsAs path name text) :
    firstLine text ≠ [] := by
  have start : ∃ c cs, text.toList = c :: cs ∧ isBlank c = false ∧ c ≠ '\n' := by
    cases imports with
    | whole => exact ⟨'i', _, by simp; rfl, by decide, by decide⟩
    | member => exact ⟨'f', _, by simp; rfl, by decide, by decide⟩
  obtain ⟨c, cs, letters, visible, inLine⟩ := start
  obtain ⟨shorter, -, trimmed⟩ :=
    exists_trimEndChars_cons visible (cs.takeWhile (· ≠ '\n'))
  rw [firstLine, letters, List.takeWhile_cons_of_pos (by simpa using inLine), trimmed]
  exact List.cons_ne_nil c shorter

theorem SameLine.eq_nil_iff {line line' : List Char} (same : SameLine ps qs line line') :
    line = [] ↔ line' = [] := by
  cases same with
  | same => rfl
  | imports reprefixed =>
      obtain ⟨rest, name, -, first, second⟩ := reprefixed
      exact iff_of_false (firstLine_ne_nil first) (firstLine_ne_nil second)

section Statements

variable {m n : ImportedModule} (moved : m.Relocated ps qs n)
  (left : ∀ part ∈ ps, IsComponent part) (right : ∀ part ∈ qs, IsComponent part)

include moved left right

theorem reprefixed_importStatement : Reprefixed ps qs m.importStatement n.importStatement := by
  obtain ⟨start, start'⟩ := moved.path.exists_start left right
  have first := ImportedModule.importsAs start
  have second := ImportedModule.importsAs start'
  obtain ⟨rest, message, path, path'⟩ := moved.path
  rw [path] at first
  rw [path', ← moved.boundName] at second
  exact ⟨rest, m.boundName, message, first, second⟩

variable (oneLine : ∀ part ∈ ps, '\n' ∉ part.toList) (oneLine' : ∀ part ∈ qs, '\n' ∉ part.toList)

include oneLine oneLine'

/-- The statements that import a module below two prefixes differ in their first lines only. -/
theorem sameLine_importStatement :
    List.Forall₂ (SameLine ps qs) (trimmedLines m.importStatement.toList)
      (trimmedLines n.importStatement.toList) := by
  have reprefixed := reprefixed_importStatement moved left right
  obtain ⟨rest, message, path, path'⟩ := moved.path
  obtain ⟨back, behind⟩ := exists_back message.ne_nil message.components m.boundName
  obtain ⟨front, -, -, letters, -, -, inLine⟩ := behind ps left oneLine m path rfl
  obtain ⟨front', -, -, letters', -, -, inLine'⟩ :=
    behind qs right oneLine' n path' moved.boundName.symm
  obtain ⟨first, parts, split, whole⟩ := splitOn_append_of_not_mem_left inLine back
  obtain ⟨_, _, split', whole'⟩ := splitOn_append_of_not_mem_left inLine' back
  rw [split, List.cons.injEq] at split'
  obtain ⟨rfl, rfl⟩ := split'
  have lines {text : String} {parts : List (List Char)} {line : List Char}
      (split : text.toList.splitOn '\n' = line :: parts) :
      trimmedLines text.toList = firstLine text :: parts.map trimEndChars := by
    obtain ⟨others, cut⟩ := @exists_splitOn_eq_cons '\n' text.toList
    rw [split, List.cons.injEq] at cut
    rw [trimmedLines, split, List.map_cons, cut.1, firstLine]
  rw [lines (letters ▸ whole), lines (letters' ▸ whole')]
  exact .cons (.imports reprefixed) (List.forall₂_same.mpr fun line _ => .same line)

end Statements

theorem sameLine_textOfLines {imports imports' : List String}
    (lines : List.Forall₂ (fun text text' =>
      List.Forall₂ (SameLine ps qs) (trimmedLines text.toList) (trimmedLines text'.toList))
      imports imports') (front back : List String) :
    List.Forall₂ (SameLine ps qs)
      (trimmedLines (textOfLines (front ++ imports ++ back)).toList)
      (trimmedLines (textOfLines (front ++ imports' ++ back)).toList) := by
  have same (lines : List (List Char)) : List.Forall₂ (SameLine ps qs) lines lines :=
    List.forall₂_same.mpr fun line _ => .same line
  rw [toList_textOfLines, toList_textOfLines, trimmedLines_flatMap, trimmedLines_flatMap]
  simp only [List.map_append, List.flatMap_append, List.flatMap_map]
  refine List.rel_append (List.rel_append (List.rel_append (same _) ?_) (same _)) (same _)
  exact List.rel_flatMap lines fun _ _ related => related

end Lines

namespace Plugin

open Catalog

section Answers

variable {r s : Request} {ps qs : List String}

/-- One file, linked for two requests. -/
structure LinkedTwice (ps qs : List String) (r s : Request) (f g : TargetFile) : Prop where
  emits : f.Emits (catalog r)
  emits' : g.Emits (catalog s)
  file : f.entry.file.Relocated ps qs g.entry.file

section Modules

variable (parallel : (catalog r).Parallel (SourceFile.Relocated ps qs) (catalog s))
  (left : ∀ part ∈ ps, IsComponent part) (right : ∀ part ∈ qs, IsComponent part)
  {f g : TargetFile} (linked : LinkedTwice ps qs r s f g)

include parallel left right linked

theorem forall₂_modules : List.Forall₂ (ImportedModule.Relocated ps qs) f.modules g.modules := by
  obtain ⟨ms, taken, kept⟩ := linked.emits.modules
  obtain ⟨ns, taken', kept'⟩ := linked.emits'.modules
  rw [← linked.file.decl] at taken'
  have related := forall₂_requestModule parallel.messages.rel_get? taken taken'
  rw [kept, kept']
  refine forall₂_distinctModules left right (related.imp ?_)
  rintro _ _ ⟨source, source', moved, rfl, rfl⟩
  exact moved.module

/-- A file that is linked for both requests has modules that are the same but for the prefix. -/
theorem sameButPrefix_moduleFile (oneLine : ∀ part ∈ ps, '\n' ∉ part.toList)
    (oneLine' : ∀ part ∈ qs, '\n' ∉ part.toList) (eligible : f.entry.file.decl.hasEligible)
    (kind : ModuleKind) (requestContext : Bool) :
    (f.moduleFile kind requestContext).SameButPrefix ps qs (g.moduleFile kind requestContext) := by
  have name : f.name = g.name := linked.file.alike.name
  have modules := forall₂_modules parallel left right linked
  have shows : f.entry.file.decl.ShowsAs g.entry.file.decl := linked.file.decl ▸ .refl _
  obtain ⟨blocks, texts⟩ := exists_blocks (fun _ _ moved => SourceFile.Relocated.alike moved)
    (fun _ _ moved => (SourceFile.Relocated.module moved).boundName) parallel.messages.rel_get?
    linked.emits linked.emits' shows eligible requestContext
  obtain ⟨text, text'⟩ := texts kind
  rw [List.append_assoc] at text text'
  rw [← preamble_congr name linked.file.module.name] at text'
  have program := program_of_moduleText kind requestContext f text
  have program' := program_of_moduleText kind requestContext g text'
  have statements := modules.imp fun m n moved => reprefixed_importStatement moved left right
  have lines := modules.imp fun m n moved =>
    sameLine_importStatement moved left right oneLine oneLine'
  rw [TargetFile.moduleFile, TargetFile.moduleFile, name, program, program']
  refine ⟨rfl, ?_, ?_⟩
  · refine ⟨f.preamble kind, f.modules.map (·.importStatement), g.modules.map (·.importStatement),
      interlude kind ++ blocks kind, ?_, String.toList_ofList, String.toList_ofList⟩
    rwa [List.forall₂_map_left_iff, List.forall₂_map_right_iff]
  · rw [String.toList_ofList, String.toList_ofList]
    refine forall₂_splitOn_tidyChars (fun _ _ same => same.eq_nil_iff) (.same []) ?_
    refine sameLine_textOfLines ?_ _ _
    rwa [List.forall₂_map_left_iff, List.forall₂_map_right_iff]

end Modules

theorem forall₂_linkedTwice (targets : r.targets = s.targets)
    (parallel : (catalog r).Parallel (SourceFile.Relocated ps qs) (catalog s)) :
    List.Forall₂ (LinkedTwice ps qs r s) (linkedFiles r) (linkedFiles s) := by
  rw [linkedFiles, linkedFiles, ← targets]
  refine List.rel_filterMap ?_ (List.forall₂_same.mpr fun name _ => rfl)
  rintro name _ rfl
  have entries := parallel.files.rel_get? name
  dsimp only
  generalize (catalog r).files.get? name = a at entries
  generalize (catalog s).files.get? name = b at entries
  cases entries with
  | none => exact .none
  | @some e e' agrees =>
      have linked := sameResult_linkFile (fun _ _ moved => moved.alike) parallel.messages.rel_get?
        agrees (congrArg (·.services) agrees.file.decl)
      have linked := linked.rel_toOption
      rw [Option.bind_some, Option.bind_some]
      generalize ((catalog r).linkFile e).toOption = x at linked
      generalize ((catalog s).linkFile e').toOption = y at linked
      cases linked with
      | none => exact .none
      | some both =>
          obtain ⟨first, second, same⟩ := both
          exact .some ⟨emits_of_linkFile first, emits_of_linkFile second, same.entry.file⟩

section Replies

variable [Grammar.Interpreter]

theorem ofParameter_of_generate {files : List GeneratedFile} (success : generate r = .ok files) :
    Settings.ofParameter r.parameter = .ok (settings r) := by
  obtain ⟨own, read, -⟩ := bind_eq_ok.mp success
  rwa [settings_eq r read]

theorem registered_of_generate {files : List GeneratedFile} (success : generate r = .ok files) :
    (Outcome.each register (start r) r.files).fault = none := by
  have loaded := (generateAll_of_generate r success).1
  rw [load_fault rfl, Option.or_eq_none_iff] at loaded
  exact loaded.1

/-- Where the catalogs before two requests differ in the prefix only, so do the files generated. -/
theorem forall₂_sameButPrefix (moved : (start r).Relocated ps qs (start s))
    (oneLine : ∀ part ∈ ps, '\n' ∉ part.toList) (oneLine' : ∀ part ∈ qs, '\n' ∉ part.toList)
    (files : r.files = s.files) (targets : r.targets = s.targets)
    (context : (settings r).requestContext = (settings s).requestContext)
    {modules modules' : List GeneratedFile} (success : generate r = .ok modules)
    (success' : generate s = .ok modules') :
    List.Forall₂ (GeneratedFile.SameButPrefix ps qs) modules modules' := by
  have sources := moved.forall₂_sourcesOf r.files
  nth_rewrite 2 [files] at sources
  have parallel : (catalog r).Parallel (SourceFile.Relocated ps qs) (catalog s) :=
    Parallel.registerAll (c := start r) (d := start s) (fun _ _ moved => moved.alike) ⟨.nil, .nil⟩
      sources (registered_of_generate success) (registered_of_generate success')
  have served : List.Forall₂
      (fun f g => f.entry.file.decl.hasEligible ∧ LinkedTwice ps qs r s f g)
      (servedFiles r) (servedFiles s) := by
    refine (List.forall₂_and_left _ _).mpr ⟨fun f member => (List.mem_filter.mp member).2, ?_⟩
    refine List.rel_filter (fun f g both => ?_) (forall₂_linkedTwice targets parallel)
    exact iff_of_eq (congrArg (·.hasEligible = true) both.file.decl)
  have each (kind : ModuleKind) :
      List.Forall₂ (GeneratedFile.SameButPrefix ps qs)
        ((servedFiles r).map (·.moduleFile kind (settings r).requestContext))
        ((servedFiles s).map (·.moduleFile kind (settings r).requestContext)) := by
    rw [List.forall₂_map_left_iff, List.forall₂_map_right_iff]
    exact served.imp fun f g ⟨eligible, both⟩ => sameButPrefix_moduleFile parallel moved.left
      moved.right both oneLine oneLine' eligible kind (settings r).requestContext
  rw [eq_of_generate r success, eq_of_generate s success', ← context]
  exact List.rel_append (each .adapter) (each .router)

/-- Two requests that are the same but for the prefix in the last piece of the parameter that sets
    one, both answered without an error: the answers have the same files in the same order, and
    each is the same line by line but for the statements that import modules of messages.  Those
    stand at the same places and import the same modules as the same names, from below the one
    prefix and from below the other. -/
theorem reply_import_prefix {importPrefix importPrefix' : String}
    (parameters : Settings.SameButPrefix r.parameter s.parameter importPrefix importPrefix')
    (files : r.files = s.files) (targets : r.targets = s.targets)
    (named : IsNamePath importPrefix) (named' : IsNamePath importPrefix')
    (answered : (reply r).error = none) (answered' : (reply s).error = none) :
    List.Forall₂ (GeneratedFile.SameButPrefix (pathComponents importPrefix)
      (pathComponents importPrefix')) (reply r).files (reply s).files := by
  have success := generate_of_error_eq_none answered
  have success' := generate_of_error_eq_none answered'
  obtain ⟨common, own, own'⟩ := Settings.eq_withPrefix_of_sameButPrefix parameters
    (ofParameter_of_generate success) (ofParameter_of_generate success')
  have moved : (start r).Relocated (pathComponents importPrefix) (pathComponents importPrefix')
      (start s) := by
    rw [start, start, own, own']
    exact relocated_empty importPrefix importPrefix' common.packageMap
  have oneLine {path : String} (named : IsNamePath path) :
      ∀ part ∈ pathComponents path, '\n' ∉ part.toList :=
    fun part member => Grammar.not_mem_of_isName (named part member) (by decide)
  refine forall₂_sameButPrefix moved (oneLine named) (oneLine named') files targets ?_ success
    success'
  rw [own, own']
  rfl

end Replies

/-- A service that uses messages of two modules, one of them in a directory, and three prefixes in
    the parameter, of which the last counts. -/
theorem reply_import_prefix_two_requests :
    let get : Option HttpRule := some ⟨some (.standard .get "/\x7bid=a/*\x7d"), "", "", []⟩
    let first : FileDecl := ⟨"d/a.proto", some "p", none, none,
      [⟨"M", [⟨"id", .string, "", .optional⟩], [], []⟩], [],
      [⟨"S", [⟨"A", "M", "M", false, false, get⟩, ⟨"B", ".p.N", "M", false, false, get⟩]⟩], []⟩
    let second : FileDecl := ⟨"b.proto", some "p", none, none,
      [⟨"N", [⟨"id", .string, "", .optional⟩], [], []⟩], [], [], []⟩
    let r : Request := ⟨"import_prefix=x,import_prefix=lib/gen, request_context", ["d/a.proto"],
      [first, second]⟩
    let s : Request := ⟨"import_prefix=x,import_prefix=,request_context", ["d/a.proto"],
      [first, second]⟩
    let _ : Grammar.Interpreter := .bare
    (reply r).error = none ∧ (reply s).error = none ∧
      (reply r).files.map (·.name) = ["d/a_pb2_http.py", "d/a_pb2_http_router.py"] ∧
      List.Forall₂ (GeneratedFile.SameButPrefix ["lib", "gen"] []) (reply r).files
        (reply s).files := by
  intro get first second r s
  have legible : ∀ f ∈ linkedFiles r, @TargetFile.Legible .bare f := by decide +kernel
  have legible' : ∀ f ∈ linkedFiles s, @TargetFile.Legible .bare f := by decide +kernel
  intro _
  have answer : reply r = _ := reply_eq_of_legible (s := ⟨"lib/gen", true, false, []⟩)
    (by decide +kernel) (by decide +kernel) legible (by decide +kernel)
  have answer' : reply s = _ := reply_eq_of_legible (s := ⟨"", true, false, []⟩)
    (by decide +kernel) (by decide +kernel) legible' (by decide +kernel)
  have answered : (reply r).error = none := by rw [answer]
  have answered' : (reply s).error = none := by rw [answer']
  have start {piece value : String} (sets : Settings.SetsPrefix piece value) :
      piece.toList.head? = some 'i' := by
    cases sets with
    | bare => rfl
    | value => simp
  have parameters : Settings.SameButPrefix r.parameter s.parameter "lib/gen" "" := by
    refine ⟨["import_prefix=x"], _, _, ["request_context"], ?_, ?_, .value "lib/gen", .value "", ?_⟩
    · decide +kernel
    · decide +kernel
    · rw [List.forall_mem_singleton]
      intro value sets
      cases start sets
  have components : pathComponents "lib/gen" = ["lib", "gen"] := by decide +kernel
  have none : pathComponents "" = [] := by decide +kernel
  refine ⟨answered, answered', ?_, ?_⟩
  · rw [answer, List.map_append, List.map_map, List.map_map]
    decide +kernel
  · rw [← components, ← none]
    exact reply_import_prefix parameters rfl rfl (by decide +kernel) (by decide +kernel) answered
      answered'

end Answers

end Plugin

end HttpAdapter
