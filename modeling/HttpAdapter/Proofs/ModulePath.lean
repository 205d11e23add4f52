import HttpAdapter.ModulePath
import HttpAdapter.Proofs.Text.Split
import Mathlib.Data.List.DropRight

/-!
The names made from a file: a module path is never empty and never begins with a dot, and the name
that a module is imported as while it is free holds no dot and is no reserved word.
-/

namespace HttpAdapter

open Text

/-- The last component of the module of a file is its name with the ending of such modules. -/
theorem pathComponents_messageModule (file : String) :
    ∃ front last, pathComponents (messageModule file) = front ++ [last ++ "_pb2"] := by
  have text : (replace '/' '.' (messageModule file)).toList =
      (replace '/' '.' (moduleStem file)).toList ++ ['_', 'p', 'b', '2'] := by
    simp [messageModule]
  have dotless : '.' ∉ ['_', 'p', 'b', '2'] := by decide
  obtain ⟨front, last, parts⟩ :=
    splitOn_append_of_not_mem (replace '/' '.' (moduleStem file)).toList dotless
  refine ⟨(front.map String.ofList).filter (!·.isEmpty), String.ofList last, ?_⟩
  have ending : String.ofList (last ++ ['_', 'p', 'b', '2']) = String.ofList last ++ "_pb2" := by
    rw [String.ofList_append]
  unfold pathComponents split
  rw [text, parts, List.map_append, List.filter_append]
  simp [ending]

/-- A component of a path is not empty and holds no dot. -/
theorem mem_pathComponents {path component : String} (member : component ∈ pathComponents path) :
    component.toList ≠ [] ∧ '.' ∉ component.toList := by
  obtain ⟨member, full⟩ := List.mem_filter.mp member
  obtain ⟨part, inParts, rfl⟩ := List.mem_map.mp member
  refine ⟨by simpa using full, ?_⟩
  rw [String.toList_ofList]
  exact not_mem_of_mem_splitOn inParts

/-- A module path begins with a character that is no dot. -/
theorem modulePath_eq_cons (f : FileDecl) (importPrefix : String) (mapped : Option String) :
    ∃ c cs, (f.modulePath importPrefix mapped).toList = c :: cs ∧ c ≠ '.' := by
  obtain ⟨front, last, ending⟩ := pathComponents_messageModule f.name
  let parts := [importPrefix,
    mapped.getD (String.ofList (FilePath.directory f.name.toList)), messageModule f.name]
  have filled : parts.flatMap pathComponents ≠ [] := by
    simp [parts, ending]
  obtain ⟨first, others, components⟩ := List.exists_cons_of_ne_nil filled
  have member : first ∈ parts.flatMap pathComponents := by simp [components]
  obtain ⟨part, -, member⟩ := List.mem_flatMap.mp member
  obtain ⟨full, dotless⟩ := mem_pathComponents member
  obtain ⟨c, cs, letters⟩ := List.exists_cons_of_ne_nil full
  have different : c ≠ '.' := by
    rintro rfl
    exact dotless (by simp [letters])
  change ∃ d ds, (join '.' (parts.flatMap pathComponents)).toList = d :: ds ∧ d ≠ '.'
  rw [components, toList_join, List.map_cons, letters]
  cases others with
  | nil => exact ⟨c, cs, by simp [List.intercalate], different⟩
  | cons next others =>
      exact ⟨c, _, by simp [List.intercalate]; rfl, different⟩

/-- A character that no reserved word holds. -/
def isForeign (c : Char) : Bool :=
  Grammar.Keyword.spellings.all fun entry => !entry.2.toList.contains c

theorem isKeyword_of_isForeign {c : Char} (foreign : isForeign c = true) {word : List Char}
    (member : c ∈ word) : Grammar.isKeyword word = false := by
  simp only [isForeign, List.all_eq_true, Bool.not_eq_true', List.contains_eq_mem,
    decide_eq_false_iff_not] at foreign
  simp only [Grammar.isKeyword, Grammar.Keyword.ofSpelling?, Option.isSome_map,
    Option.isSome_eq_false_iff, Option.isNone_iff_eq_none, List.find?_eq_none, beq_iff_eq]
  rintro entry listed rfl
  exact foreign entry listed member

theorem isForeign_underscore : isForeign '_' = true := by decide

/-- A replaced character is gone. -/
theorem not_mem_replace_old {old new : Char} {s : String} (different : old ≠ new) :
    old ∉ (replace old new s).toList := by
  simp only [toList_replace, List.mem_map, not_exists, not_and]
  intro c member
  split <;> simp_all [Ne.symm different]

/-- Replacing brings in the new character only. -/
theorem not_mem_replace {c old new : Char} {s : String} (different : c ≠ new)
    (absent : c ∉ s.toList) : c ∉ (replace old new s).toList := by
  simp only [toList_replace, List.mem_map, not_exists, not_and]
  intro d member
  split
  · exact Ne.symm different
  · rintro rfl
    exact absent member

section OutputFile

theorem lastSegment_subset (path : List Char) : FilePath.lastSegment path ⊆ path := by
  unfold FilePath.lastSegment
  split
  · exact List.Subset.refl path
  · rename_i before base cut
    rw [(cutLast_eq_some cut).1]
    exact List.subset_append_of_subset_right before (List.subset_cons_self _ base)

theorem stem_subset (base : List Char) : FilePath.stem base ⊆ base := by
  unfold FilePath.stem
  split
  · exact List.Subset.refl base
  · rename_i before after cut
    split
    · exact List.Subset.refl base
    · rw [(cutLast_eq_some cut).1]
      exact List.subset_append_left before _

theorem directory_subset (path : List Char) : FilePath.directory path ⊆ path := by
  unfold FilePath.directory
  split
  · exact List.nil_subset path
  · rename_i head base cut
    have front : head ++ ['/'] ⊆ path := by
      rw [(cutLast_eq_some cut).1, List.append_cons head '/' base]
      exact List.subset_append_left (head ++ ['/']) base
    dsimp only
    split
    · exact front
    · exact List.Subset.trans (List.rdropWhile_prefix (· == '/') (head ++ ['/'])).subset front

/-- A path below a directory brings in slashes only. -/
theorem mem_of_mem_below {dir path : List Char} {c : Char} (noSlash : c ≠ '/')
    (member : c ∈ FilePath.below dir path) : c ∈ dir ∨ c ∈ path := by
  unfold FilePath.below at member
  split at member
  · exact Or.inr member
  · split at member
    · exact List.mem_append.mp member
    · exact (List.mem_append.mp member).imp_right (List.mem_of_ne_of_mem noSlash)

/-- A file that a module goes to has the characters of its source, besides slashes, underscores
    and the end of its name. -/
theorem mem_of_mem_outputFile {kind : ModuleKind} {file : String} {c : Char}
    (member : c ∈ (outputFile kind file).toList) (noSlash : c ≠ '/') (noUnderscore : c ≠ '_')
    (inside : c ∉ kind.ending.toList) : c ∈ file.toList := by
  rw [outputFile, siblingFile, String.toList_ofList] at member
  rcases mem_of_mem_below noSlash member with inDirectory | inName
  · exact directory_subset file.toList inDirectory
  · rw [String.toList_append, List.mem_append, or_iff_left inside] at inName
    by_contra absent
    refine not_mem_replace noUnderscore (fun inStem => absent ?_) inName
    rw [fileStem, String.toList_ofList] at inStem
    exact lastSegment_subset file.toList (stem_subset _ inStem)

end OutputFile

/-- An identifier made from a package name holds no dot and is no reserved word. -/
theorem identifierOfPackage_spec (package : String) :
    '.' ∉ (identifierOfPackage package).toList ∧
      Grammar.isKeyword (identifierOfPackage package).toList = false := by
  have dotless : '.' ∉ (replace '-' '_' (replace '.' '_' package)).toList :=
    not_mem_replace (by decide) (not_mem_replace_old (by decide))
  unfold identifierOfPackage
  simp only
  split
  · constructor
    · rw [String.toList_append]
      simpa only [List.mem_append, not_or] using ⟨dotless, by decide +kernel⟩
    · exact isKeyword_of_isForeign isForeign_underscore (by simp)
  · rename_i free
    exact ⟨dotless, by simpa using free⟩

/-- The name that the module of a file is imported as while it is free holds no dot and is no
    reserved word. -/
theorem preferredName_spec (f : FileDecl) :
    '.' ∉ f.preferredName.toList ∧ Grammar.isKeyword f.preferredName.toList = false := by
  unfold FileDecl.preferredName
  split <;> exact identifierOfPackage_spec _

end HttpAdapter
