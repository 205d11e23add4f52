import HttpAdapter.Proofs.Catalog.Agreement
import Mathlib.Data.List.Sort

/-!
The order of the files in a request.  It decides which of two modules with one name gets a variant,
and which of several declarations is refused as the second of its name, but nothing else:
`load_perm`.
-/

namespace HttpAdapter

/-- Two registered files are the same but for the name that their modules are imported as. -/
structure SourceFile.SameButName (s t : SourceFile) : Prop where
  decl : s.decl = t.decl
  path : s.module.path = t.module.path
  preferred : s.module.name = t.module.name

theorem SourceFile.SameButName.alike {s t : SourceFile} (same : s.SameButName t) : s.Alike t := by
  refine ⟨?_, ?_, ?_, ?_, ?_⟩
  · exact congrArg (·.name) same.decl
  · exact congrArg (·.packageName) same.decl
  · exact congrArg (·.isProto2) same.decl
  · exact congrArg (·.messages) same.decl
  · exact congrArg (·.enums) same.decl

theorem isSome_eq_of_rel {α β : Type} {S : α → β → Prop} {a : Option α} {b : Option β}
    (rel : Option.Rel S a b) : a.isSome = b.isSome := by
  cases rel <;> rfl

theorem Table.perm_keys {α β : Type} {S : α → β → Prop} {t : Table α} {u : Table β}
    (rel : ∀ name, Option.Rel S (t.get? name) (u.get? name)) (distinct : t.keys.Nodup)
    (distinct' : u.keys.Nodup) : t.keys.Perm u.keys := by
  refine (List.perm_ext_iff_of_nodup distinct distinct').mpr fun name => ?_
  rw [← Table.get?_isSome_iff, ← Table.get?_isSome_iff, isSome_eq_of_rel (rel name)]

/-- The sorted keys of tables that lead to related values are the same. -/
theorem Table.sorted_keys {α β : Type} {S : α → β → Prop} {t : Table α} {u : Table β}
    (rel : ∀ name, Option.Rel S (t.get? name) (u.get? name)) (distinct : t.keys.Nodup)
    (distinct' : u.keys.Nodup) :
    t.keys.mergeSort (· ≤ ·) = u.keys.mergeSort (· ≤ ·) := by
  have perm := (List.mergeSort_perm t.keys (· ≤ ·)).trans
    ((perm_keys rel distinct distinct').trans (List.mergeSort_perm u.keys (· ≤ ·)).symm)
  exact perm.eq_of_pairwise' (r := (· ≤ ·)) (List.pairwise_mergeSort' _ _)
    (List.pairwise_mergeSort' _ _)

namespace Catalog

/-- In two orders the same files get modules of the same paths. -/
theorem matched_sourcesOf (c : Catalog) {fs gs : List FileDecl} (perm : fs.Perm gs) :
    Matched SourceFile.SameButName (c.sourcesOf fs) (c.sourcesOf gs) := by
  have counterpart {fs gs : List FileDecl} (subset : fs ⊆ gs) {s : SourceFile}
      (member : s ∈ c.sourcesOf fs) : ∃ t ∈ c.sourcesOf gs, s.SameButName t := by
    have declared : s.decl ∈ (c.sourcesOf gs).map (·.decl) := by
      rw [map_decl_sourcesOf]
      refine subset ?_
      rw [← map_decl_sourcesOf c fs]
      exact List.mem_map_of_mem member
    obtain ⟨t, other, decl⟩ := List.mem_map.mp declared
    obtain ⟨path, name⟩ := module_of_mem_sourcesOf member
    obtain ⟨path', name'⟩ := module_of_mem_sourcesOf other
    exact ⟨t, other, decl.symm, by rw [path, path', decl], by rw [name, name', decl]⟩
  refine ⟨fun s member => counterpart perm.subset member, fun t member => ?_⟩
  obtain ⟨s, other, same⟩ := counterpart perm.symm.subset member
  exact ⟨s, other, same.decl.symm, same.path.symm, same.preferred.symm⟩

section Load

variable (importPrefix : String) (packageMap : Table String) {r s : Request}

/-- Files in two orders are both registered to the end, or neither is. -/
theorem registerAll_fault_perm (perm : r.files.Perm s.files) :
    (Outcome.each register (empty importPrefix packageMap) r.files).fault.isSome ↔
      (Outcome.each register (empty importPrefix packageMap) s.files).fault.isSome := by
  have exact := hasExactly_empty importPrefix packageMap
  rw [registerAll_fault_isSome_iff exact, registerAll_fault_isSome_iff exact, ← not_iff_not,
    ← nodup_symbols_files_iff (empty importPrefix packageMap),
    ← nodup_symbols_files_iff (empty importPrefix packageMap)]
  exact (perm.flatMap_right _).nodup_iff

theorem nodup_symbolsOf_of_registered {fs : List FileDecl}
    (success : (Outcome.each register (empty importPrefix packageMap) fs).fault = none) :
    (symbolsOf ((empty importPrefix packageMap).sourcesOf fs)).Nodup := by
  have declares := declares_registerAll (hasExactly_empty importPrefix packageMap) fs
  rw [symbolsOf_sourcesOf, ← repeated_nil_eq_nil_iff, ← List.head?_eq_none_iff,
    ← Option.map_eq_none_iff, ← declares.fault]
  exact success

theorem contains_registered {fs : List FileDecl}
    (success : (Outcome.each register (empty importPrefix packageMap) fs).fault = none) :
    (Outcome.each register (empty importPrefix packageMap) fs).catalog.Contains
      ((empty importPrefix packageMap).sourcesOf fs) :=
  contains_registerAll (contains_empty importPrefix packageMap) success

/-- Files in two orders leave catalogs that agree up to the names of modules. -/
theorem agrees_registerAll_perm (perm : r.files.Perm s.files)
    (success : (Outcome.each register (empty importPrefix packageMap) r.files).fault = none)
    (success' : (Outcome.each register (empty importPrefix packageMap) s.files).fault = none) :
    ((empty importPrefix packageMap).registerAll r).Agrees SourceFile.SameButName
      ((empty importPrefix packageMap).registerAll s) :=
  agrees_of_contains (fun _ _ same => same.alike)
    (contains_registered importPrefix packageMap success)
    (contains_registered importPrefix packageMap success')
    (matched_sourcesOf _ perm) (nodup_symbolsOf_of_registered importPrefix packageMap success)
    (nodup_symbolsOf_of_registered importPrefix packageMap success')
    (targets_registerAll _ r) (targets_registerAll _ s)

/-- The names of what files declare are distinct in the catalog that they leave. -/
theorem nodup_names_load
    (success : (Outcome.each register (empty importPrefix packageMap) r.files).fault = none) :
    ((empty importPrefix packageMap).load r).catalog.messages.keys.Nodup ∧
      ((empty importPrefix packageMap).load r).catalog.enums.keys.Nodup := by
  have contains := contains_registered importPrefix packageMap success
  have distinct := nodup_symbolsOf_of_registered importPrefix packageMap success
  have same := sameTables_load (c := empty importPrefix packageMap) rfl r
  obtain ⟨-, messages, enums⟩ := nodup_symbolsOf_iff.mp distinct
  rw [same.messages, same.enums, registerAll, contains.messages, contains.enums, messageTable,
    enumTable, Table.keys, Table.keys, List.map_map, List.map_map]
  exact ⟨messages, enums⟩

/-- Once the files are registered, loads for the same targets stop with the same fault or leave
    catalogs that agree. -/
theorem load_perm_of_registered (perm : r.files.Perm s.files) (targets : r.targets = s.targets)
    (success : (Outcome.each register (empty importPrefix packageMap) r.files).fault = none)
    (success' : (Outcome.each register (empty importPrefix packageMap) s.files).fault = none) :
    let o := (empty importPrefix packageMap).load r
    let o' := (empty importPrefix packageMap).load s
    o.fault = o'.fault ∧ (o.fault = none → o.catalog.Agrees SourceFile.SameButName o'.catalog) := by
  intro o o'
  obtain ⟨faults, linked⟩ := agrees_linkTargets (fun _ _ same => same.alike)
    (fun _ _ same => same.decl)
    (agrees_registerAll_perm importPrefix packageMap perm success success') none s.targets
  have stop : o.fault = _ := load_fault rfl r
  have stop' : o'.fault = _ := load_fault rfl s
  rw [success, Option.none_or, targets] at stop
  rw [success', Option.none_or, ← faults, ← stop] at stop'
  refine ⟨stop'.symm, fun none => ?_⟩
  have reached : o.catalog = _ := catalog_load rfl none
  have reached' : o'.catalog = _ := catalog_load rfl (stop'.trans none)
  rw [reached, reached', targets]
  exact ⟨linked.messages, linked.enums, linked.files, linked.targets⟩

end Load

/-- Loads of the same files in two orders into fresh catalogs, for the same targets, both stop
    because something is declared twice, or both stop with the same other fault, or neither stops.
    In the last case every name leads to the same message, the same enumeration, a file with the
    same module path, and the same linked services; only the names that modules are imported as
    may differ. -/
theorem load_perm (importPrefix : String) (packageMap : Table String) {r s : Request}
    (perm : r.files.Perm s.files) (targets : r.targets = s.targets) :
    let o := (empty importPrefix packageMap).load r
    let o' := (empty importPrefix packageMap).load s
    (∃ fault fault', o.fault = some fault ∧ o'.fault = some fault' ∧
      fault.isDuplicate ∧ fault'.isDuplicate) ∨
    (∃ fault, o.fault = some fault ∧ o'.fault = some fault ∧ ¬ fault.isDuplicate) ∨
    (o.fault = none ∧ o'.fault = none ∧
      o.catalog.Agrees SourceFile.SameButName o'.catalog ∧
      o.catalog.messageNames = o'.catalog.messageNames ∧
      o.catalog.enumNames = o'.catalog.enumNames) := by
  intro o o'
  have exact := hasExactly_empty importPrefix packageMap
  have both := registerAll_fault_perm importPrefix packageMap perm
  cases registered : (Outcome.each register (empty importPrefix packageMap) r.files).fault with
  | some fault =>
      obtain ⟨fault', registered'⟩ :=
        Option.isSome_iff_exists.mp (both.mp (by rw [registered, Option.isSome_some]))
      obtain ⟨stopped, duplicate⟩ := (registerAll_fault_iff rfl exact r fault).mp registered
      obtain ⟨stopped', duplicate'⟩ := (registerAll_fault_iff rfl exact s fault').mp registered'
      exact Or.inl ⟨fault, fault', stopped, stopped', duplicate, duplicate'⟩
  | none =>
      have registered' : (Outcome.each register (empty importPrefix packageMap) s.files).fault =
          none := by
        rw [← Option.not_isSome_iff_eq_none, ← both, registered]
        exact Bool.false_ne_true
      obtain ⟨faults, agree⟩ :=
        load_perm_of_registered importPrefix packageMap perm targets registered registered'
      cases stop : o.fault with
      | some fault =>
          have linking : o.fault = _ := load_fault rfl r
          rw [registered, Option.none_or, stop] at linking
          exact Or.inr (Or.inl ⟨fault, rfl, faults.symm.trans stop,
            not_isDuplicate_linkTargets linking.symm⟩)
      | none =>
          obtain ⟨messages, enums⟩ := nodup_names_load importPrefix packageMap registered
          obtain ⟨messages', enums'⟩ := nodup_names_load importPrefix packageMap registered'
          exact Or.inr (Or.inr ⟨rfl, faults.symm.trans stop, agree stop,
            Table.sorted_keys (agree stop).messages messages messages',
            Table.sorted_keys (agree stop).enums enums enums'⟩)

/-- Two files of one package in two orders: each time the second one gets a variant of the name, so
    that the names differ, while a method finds the same message. -/
theorem load_perm_two_files :
    let first : FileDecl := ⟨"x/a.proto", some "p", none, none, [⟨"M", [], [], []⟩], [],
      [⟨"S", [⟨"Get", "N", "M", false, false, none⟩]⟩], []⟩
    let second : FileDecl := ⟨"y/b.proto", some "p", none, none, [⟨"N", [], [], []⟩], [], [], []⟩
    let r : Request := ⟨"", ["x/a.proto"], [first, second]⟩
    let s : Request := ⟨"", ["x/a.proto"], [second, first]⟩
    let o := (empty "" []).load r
    let o' := (empty "" []).load s
    o.fault = none ∧ o'.fault = none ∧ o.catalog.Agrees SourceFile.SameButName o'.catalog ∧
      (o.catalog.files.get? "x/a.proto").map (·.file.module.boundName) = some "p" ∧
      (o'.catalog.files.get? "x/a.proto").map (·.file.module.boundName) = some "p_0" := by
  intro first second r s o o'
  have none : o.fault = none := by decide +kernel
  have perm : r.files.Perm s.files := List.Perm.swap second first []
  rcases load_perm "" [] perm rfl with ⟨fault, _, stopped, -⟩ | ⟨fault, stopped, -⟩ | agrees
  · rw [none] at stopped
    cases stopped
  · rw [none] at stopped
    cases stopped
  · obtain ⟨-, none', agrees, -, -⟩ := agrees
    exact ⟨none, none', agrees, by decide +kernel, by decide +kernel⟩

end Catalog

end HttpAdapter
