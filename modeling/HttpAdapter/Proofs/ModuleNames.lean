import HttpAdapter.Proofs.Catalog.Alias
import HttpAdapter.Proofs.DottedPath
import HttpAdapter.Proofs.Grammar.Names

/-!
The names made from a file whose own name, package and mapping are made of names of the language.
Its module has a path of such names, `isDotted_modulePath`, and is imported as one,
`isName_preferredName` and `isName_numbered`.
-/

namespace HttpAdapter

open Grammar Text

/-- A path of names, with dots or slashes between them. -/
def IsNamePath (text : String) : Prop := ∀ name ∈ pathComponents text, isName name = true

instance (text : String) : Decidable (IsNamePath text) :=
  inferInstanceAs (Decidable (∀ name ∈ pathComponents text, isName name = true))

/-- A file name made of names, with slashes between them and the extension `.proto`. -/
def IsNamedFile (file : String) : Prop :=
  ∃ directories base, file = join '/' (directories ++ [base ++ ".proto"]) ∧
    (∀ d ∈ directories, isName d = true) ∧ isName base = true

section Paths

theorem dot_not_mem_of_isName {name : String} (named : isName name = true) : '.' ∉ name.toList :=
  not_mem_of_isName named (by decide)

theorem slash_not_mem_of_isName {name : String} (named : isName name = true) : '/' ∉ name.toList :=
  not_mem_of_isName named (by decide)

theorem isPathComponent_of_isName {name : String} (named : isName name = true) :
    IsPathComponent name where
  full := by
    rintro rfl
    exact ne_empty_of_isName named rfl
  dotless := dot_not_mem_of_isName named
  slashless := slash_not_mem_of_isName named

/-- Names with slashes between them are the components of the path they make. -/
theorem pathComponents_join {names : List String} (named : ∀ name ∈ names, isName name = true) :
    pathComponents (join '/' names) = names :=
  pathComponents_join_slash fun name member => isPathComponent_of_isName (named name member)

theorem pathComponents_of_isName {name : String} (named : isName name = true) :
    pathComponents name = [name] := by
  have alone : pathComponents (join '/' [name]) = [name] :=
    pathComponents_join (by simpa using named)
  rwa [join_singleton] at alone

end Paths

section Files

variable {file : String} {directories : List String} {base : String}

theorem interfaceFile_of_names (directoryNames : ∀ d ∈ directories, isName d = true)
    (baseNamed : isName base = true) :
    InterfaceFile (join '/' (directories ++ [base ++ ".proto"])) directories base where
  name := rfl
  proper := by
    intro d member
    have component := isPathComponent_of_isName (directoryNames d member)
    exact ⟨component.full, component.slashless⟩
  slashless := slash_not_mem_of_isName baseNamed
  start := by
    obtain ⟨c, cs, letters, start⟩ := exists_start_of_isName baseNamed
    exact ⟨c, cs, letters, ne_of_isNameChar (isNameChar_of_isNameStart start) (by decide)⟩

theorem not_mem_breaks_of_isNamedFile (named : IsNamedFile file) :
    ∀ c ∈ file.toList, c ∉ breaks := by
  obtain ⟨directories, base, name, directoryNames, baseNamed⟩ := named
  have absent {d : Char} (other : isNameChar d = false) (noSlash : d ≠ '/')
      (fixed : d ∉ ".proto".toList) : d ∉ file.toList := by
    rw [name, toList_join, mem_intercalate noSlash]
    rintro ⟨part, inParts, member⟩
    simp only [List.map_append, List.map_cons, List.map_nil, List.mem_append, List.mem_map,
      List.mem_singleton] at inParts
    rcases inParts with ⟨directory, inPath, rfl⟩ | rfl
    · exact not_mem_of_isName (directoryNames directory inPath) other member
    · rw [String.toList_append, List.mem_append] at member
      exact member.elim (not_mem_of_isName baseNamed other) fixed
  intro c member special
  have others : ∀ d ∈ breaks, isNameChar d = false ∧ d ≠ '/' ∧ d ∉ ".proto".toList :=
    forall_breaks (by decide) (by decide) (by decide) (by decide) (by decide)
  obtain ⟨other, noSlash, fixed⟩ := others c special
  exact absent other noSlash fixed member

/-- The directory of a file is made of the names in front of the last slash. -/
theorem InterfaceFile.directory_eq (named : InterfaceFile file directories base) :
    String.ofList (FilePath.directory file.toList) = join '/' directories := by
  rw [named.toList_name, directory_intercalate named.proper_toList named.not_mem_last, join]

/-- The module of message classes of a file is a name. -/
theorem InterfaceFile.isName_messageModule (named : InterfaceFile file directories base)
    (baseNamed : isName base = true) : isName (messageModule file) = true := by
  have noHyphen : '-' ∉ base.toList := not_mem_of_isName baseNamed (by decide)
  have whole : messageModule file = base ++ "_pb2" := by
    rw [← String.toList_inj, named.toList_messageModule,
      (map_swap_eq_self_iff (by decide)).mpr noHyphen, String.toList_append]
    rfl
  rw [whole]
  exact isName_append_fixed (c := '_') baseNamed rfl isForeign_underscore (by decide)

/-- The path of a module is made of names if those of the prefix and of the package are, in which
    the settings put the file if they do. -/
theorem isDotted_modulePath {f : FileDecl} (named : IsNamedFile f.name) {importPrefix : String}
    (prefixNamed : IsNamePath importPrefix) {mapped : Option String}
    (mappedNamed : ∀ package, mapped = some package → IsNamePath package) :
    IsDotted (f.modulePath importPrefix mapped) := by
  obtain ⟨directories, base, name, directoryNames, baseNamed⟩ := named
  have interface := interfaceFile_of_names directoryNames baseNamed
  rw [← name] at interface
  have module := pathComponents_of_isName (interface.isName_messageModule baseNamed)
  have place : IsNamePath (mapped.getD (String.ofList (FilePath.directory f.name.toList))) := by
    cases mapped with
    | none =>
        rw [Option.getD_none, interface.directory_eq, IsNamePath,
          pathComponents_join directoryNames]
        exact directoryNames
    | some package => exact mappedNamed package rfl
  apply isDotted_join
  · simp [module]
  · simp only [List.flatMap_cons, List.flatMap_nil, List.append_nil, List.forall_mem_append, module,
      List.forall_mem_singleton]
    exact ⟨prefixNamed, place, interface.isName_messageModule baseNamed⟩

end Files

section BoundNames

/-- Names with dots between them become an identifier with underscores for the dots. -/
theorem isIdentifier_replace {package : String}
    (named : ∀ name ∈ split '.' package, isName name = true) :
    isIdentifier (replace '-' '_' (replace '.' '_' package)).toList = true := by
  obtain ⟨first, others, parts⟩ := List.exists_cons_of_ne_nil
    (show split '.' package ≠ [] by simp [split])
  rw [parts, List.forall_mem_cons] at named
  obtain ⟨c, cs, letters, start⟩ := exists_start_of_isName named.1
  have text : package.toList = c :: (cs ++ others.flatMap ('.' :: ·.toList)) := by
    rw [← join_split package, parts, toList_join_cons, letters]
    rfl
  have inner : ∀ d ∈ cs ++ others.flatMap ('.' :: ·.toList), isNameChar d = true ∨ d = '.' := by
    intro d member
    rcases List.mem_append.mp member with inFirst | later
    · exact Or.inl (isNameChar_of_isName named.1 (by simp [letters, inFirst]))
    · obtain ⟨name, other, inName⟩ := List.mem_flatMap.mp later
      rcases List.mem_cons.mp inName with dot | inName
      · exact Or.inr dot
      · exact Or.inl (isNameChar_of_isName (named.2 name other) inName)
  have keeps {d : Char} (inName : isNameChar d = true) : swap '-' '_' (swap '.' '_' d) = d := by
    have noDot : d ≠ '.' := ne_of_isNameChar inName (by decide)
    have noHyphen : d ≠ '-' := ne_of_isNameChar inName (by decide)
    simp [swap, noDot, noHyphen]
  have swapped : (replace '-' '_' (replace '.' '_' package)).toList =
      package.toList.map fun d => swap '-' '_' (swap '.' '_' d) := by
    rw [toList_replace, toList_replace, List.map_map]
    rfl
  rw [swapped, text, List.map_cons, keeps (isNameChar_of_isNameStart start), isIdentifier, start,
    Bool.true_and, List.all_map, List.all_eq_true]
  intro d member
  rcases inner d member with inName | rfl
  · rw [Function.comp_apply, keeps inName]
    exact inName
  · decide

/-- A package of names has a name as its identifier. -/
theorem isName_identifierOfPackage {package : String}
    (named : ∀ name ∈ split '.' package, isName name = true) :
    isName (identifierOfPackage package) = true := by
  have identifier := isIdentifier_replace named
  unfold identifierOfPackage
  simp only
  split
  · exact isName_append identifier (List.all_eq_true.mp (by decide)) isForeign_underscore (by simp)
  · rename_i free
    rw [isName, identifier, Bool.true_and, Bool.not_eq_true']
    simpa using free

/-- The name that a module is imported as while it is free. -/
theorem isName_preferredName {f : FileDecl} (named : IsNamedFile f.name)
    (package : f.packageName ≠ "" → ∀ name ∈ split '.' f.packageName, isName name = true) :
    isName f.preferredName = true := by
  unfold FileDecl.preferredName
  split
  · obtain ⟨directories, base, name, directoryNames, baseNamed⟩ := named
    rw [name, (interfaceFile_of_names directoryNames baseNamed).fileStem_eq]
    apply isName_identifierOfPackage
    rw [split_of_not_mem (dot_not_mem_of_isName baseNamed), List.forall_mem_singleton]
    exact baseNamed
  · rename_i full
    exact isName_identifierOfPackage (package (by simpa using full))

/-- The numbered variants of a name are names. -/
theorem isName_numbered {name : String} (named : isName name = true) (i : Nat) :
    isName (Catalog.numbered name i) = true := by
  rw [Catalog.numbered, String.append_assoc]
  refine isName_append (isIdentifier_of_isName named) ?_ isForeign_underscore (by simp)
  intro c member
  rw [String.toList_append, List.mem_append] at member
  rcases member with underscore | digit
  · rw [List.mem_singleton.mp (show c ∈ ['_'] from underscore)]
    decide
  · rw [Nat.toString_eq_repr, Nat.toList_repr] at digit
    exact isNameChar_of_isDigit (Nat.isDigit_of_mem_toDigits (by decide) (by decide) digit)

end BoundNames

end HttpAdapter
