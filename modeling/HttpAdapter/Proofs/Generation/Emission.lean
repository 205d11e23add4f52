import HttpAdapter.Proofs.Generation.Layout

/-!
Which modules are generated.  A file gets both modules if one of its methods is eligible and none
otherwise, and modules are generated up to the first that is no program: `reportsFirst_generateAll`.
-/

namespace HttpAdapter

open Grammar

section Module

variable (kind : ModuleKind) (requestContext : Bool) (f : TargetFile)

/-- The program in a module for a file. -/
def TargetFile.program : List Char := tidyChars (textOfLines (f.lines kind requestContext)).toList

/-- A module for a file, with its program. -/
def TargetFile.moduleFile : GeneratedFile :=
  ⟨outputFile kind f.name, String.ofList (f.program kind requestContext)⟩

/-- The program in a module is the tidy layout of its text. -/
theorem program_of_moduleText {text : String} (laid : f.moduleText kind requestContext = .ok text) :
    f.program kind requestContext = tidyChars text.toList := by
  have full : f.exposed ≠ [] := by
    intro none
    simp [TargetFile.moduleText, none] at laid
  rw [moduleText_eq full, Except.ok.injEq] at laid
  rw [TargetFile.program, laid]

variable [Interpreter]

/-- What is said against a module for a file: the name of the file that it goes to, or that it is no
    program. -/
def TargetFile.programFaults : List Fault :=
  let name := outputFile kind f.name
  let program := f.program kind requestContext
  if f.exposed.isEmpty then []
  else if '\x00' ∈ name.toList then [.nullInFileName name]
  else if isProgram program then []
  else [.invalidProgram name (Interpreter.complaint name (String.ofList program))]

/-- A file without anything to generate has no module; another one has a module if nothing is said
    against it. -/
theorem generate_eq : f.generate kind requestContext =
    if f.exposed.isEmpty then .ok none
    else match f.programFaults kind requestContext with
      | [] => .ok (some (f.moduleFile kind requestContext))
      | fault :: _ => .error fault := by
  rw [TargetFile.programFaults]
  cases empty : f.exposed.isEmpty with
  | true => simp [TargetFile.generate, TargetFile.moduleText, empty]
  | false =>
      have full : f.exposed ≠ [] := by simpa using empty
      have laid : f.generate kind requestContext =
          (tidyProgram (outputFile kind f.name) (textOfLines (f.lines kind requestContext))).map
            fun content => some ⟨outputFile kind f.name, content⟩ := by
        rw [TargetFile.generate, moduleText_eq full]
      have own : tidyChars (textOfLines (f.lines kind requestContext)).toList =
          f.program kind requestContext := rfl
      simp only [laid, tidyProgram, own, Bool.false_eq_true, if_false]
      split
      · rfl
      · cases isProgram (f.program kind requestContext) <;> rfl

theorem reportsFirst_generate :
    ReportsFirst (f.generate kind requestContext) (f.programFaults kind requestContext) := by
  rw [generate_eq]
  cases empty : f.exposed.isEmpty with
  | true =>
      rw [TargetFile.programFaults, empty]
      rfl
  | false => cases f.programFaults kind requestContext <;> rfl

end Module

section Row

variable [Interpreter] (requestContext : Bool) (files : List TargetFile)

theorem reportsFirst_generateKind (kind : ModuleKind) :
    ReportsFirst (generateKind kind requestContext files)
      (files.flatMap (·.programFaults kind requestContext)) := by
  have modules : ReportsFirst (files.mapM fun f => f.generate kind requestContext)
      (files.flatMap (·.programFaults kind requestContext)) :=
    ReportsFirst.mapM fun f _ => reportsFirst_generate kind requestContext f
  exact modules.map fun modules => modules.filterMap id

/-- The modules of one kind are those of the files with something to generate, in their order. -/
theorem eq_of_generateKind {kind : ModuleKind} {modules : List GeneratedFile}
    (success : generateKind kind requestContext files = .ok modules) :
    modules = (files.filter (!·.exposed.isEmpty)).map (·.moduleFile kind requestContext) := by
  obtain ⟨all, generated, success⟩ := bind_eq_ok.mp success
  cases success
  have related := forall₂_of_mapM_eq_ok generated
  clear generated success
  induction related with
  | nil => rfl
  | @cons f module files modules first rest ih =>
      rw [generate_eq] at first
      split at first
      · rename_i empty
        cases first
        rw [List.filter_cons_of_neg (by simp [empty])]
        exact ih
      · rename_i full
        split at first
        · cases first
          rw [List.filter_cons_of_pos (by simpa using full), List.map_cons, ← ih]
          rfl
        · cases first

/-- All adapters come before all routers, and both are those of the same files. -/
theorem eq_of_generateAll {modules : List GeneratedFile}
    (success : generateAll requestContext true files = .ok modules) :
    modules = (files.filter (!·.exposed.isEmpty)).map (·.moduleFile .adapter requestContext) ++
      (files.filter (!·.exposed.isEmpty)).map (·.moduleFile .router requestContext) := by
  obtain ⟨adapters, first, success⟩ := bind_eq_ok.mp success
  obtain ⟨routers, second, success⟩ := bind_eq_ok.mp success
  cases success
  rw [eq_of_generateKind requestContext files first, eq_of_generateKind requestContext files second]

end Row

end HttpAdapter
