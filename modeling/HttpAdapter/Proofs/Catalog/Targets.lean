import HttpAdapter.Proofs.Catalog.Linking
import HttpAdapter.Proofs.Catalog.Step
import Mathlib.Data.List.Induction

/-!
Where linked files come from.  Linking looks only at the messages of a catalog, so within one load
the order of the files does not matter, and a target that is there after commands was linked by
one of the loads among them, in the catalog in which that load had registered its files.
-/

namespace HttpAdapter.Catalog

section Congruence

variable {c d : Catalog}

theorem message_congr (same : c.messages = d.messages) : c.message = d.message := by
  funext location name
  simp only [Catalog.message, same]

theorem messageOf_congr (same : c.messages = d.messages) : c.messageOf = d.messageOf := by
  funext f
  simp only [messageOf, message_congr same]

theorem fieldPath_congr (same : c.messages = d.messages) : c.fieldPath = d.fieldPath := by
  have follow : ∀ path names m, c.follow path m names = d.follow path m names := by
    intro path names
    induction names with
    | nil => intro m; rfl
    | cons name names ih =>
        intro m
        simp only [Catalog.follow, messageOf_congr same, ih]
  funext m path
  exact follow path _ m

theorem linkRules_congr (same : c.messages = d.messages) : c.linkRules = d.linkRules := by
  have rule : c.linkRule = d.linkRule := by
    funext request r
    simp only [linkRule, linkParameters, fieldPath_congr same]
  funext request http
  simp only [linkRules, rule]

/-- Linking looks only at the messages of a catalog. -/
theorem linkFile_congr (same : c.messages = d.messages) : c.linkFile = d.linkFile := by
  have method : c.linkMethod = d.linkMethod := by
    funext package index m
    simp only [linkMethod, message_congr same, linkRules_congr same]
  have methods : ∀ package ms index,
      c.linkMethods package index ms = d.linkMethods package index ms := by
    intro package ms
    induction ms with
    | nil => intro index; rfl
    | cons m ms ih => intro index; simp only [linkMethods, method, ih]
  have services : ∀ package ss index,
      c.linkServices package index ss = d.linkServices package index ss := by
    intro package ss
    induction ss with
    | nil => intro index; rfl
    | cons s ss ih => intro index; simp only [linkServices, methods, ih]
  funext entry
  simp only [linkFile, services]

end Congruence

/-- Linking files leaves a target as it was or makes it the linked file of that name. -/
theorem get?_targets_linkTargets (c : Catalog) (first : Option String) (names : List String)
    (name : String) :
    (c.linkTargets first names).catalog.targets.get? name = c.targets.get? name ∨
      ∃ entry linked, c.files.get? name = some entry ∧ c.linkFile entry = .ok linked ∧
        (c.linkTargets first names).catalog.targets.get? name = some linked := by
  induction names generalizing c first with
  | nil => exact Or.inl rfl
  | cons head names ih =>
      simp only [linkTargets]
      split
      · exact Or.inl rfl
      · rename_i entry found
        split
        · split
          · exact Or.inl rfl
          · rename_i linked success
            rcases ih { c with targets := c.targets.set head linked }
              (some (first.getD entry.file.decl.homePackage)) with kept | made
            · rw [kept, Table.get?_set]
              split
              · rename_i same
                subst same
                exact Or.inr ⟨entry, linked, found, success, rfl⟩
              · exact Or.inl rfl
            · obtain ⟨other, result, registered, linking, target⟩ := made
              have same : (c.addTarget head linked).linkFile = c.linkFile := linkFile_congr rfl
              exact Or.inr ⟨other, result, registered, same ▸ linking, target⟩
        · exact Or.inl rfl

theorem targets_declare (c : Catalog) (d : Declaration) :
    (c.declare d).catalog.targets = c.targets := by
  cases d <;> simp only [declare] <;> split <;> rfl

/-- Registering files links none. -/
theorem targets_registerAll (c : Catalog) (r : Request) :
    (c.registerAll r).targets = c.targets := by
  refine Outcome.each_keep (P := fun d => d.targets = c.targets) ?_ rfl
  intro d f _ same
  unfold register
  split
  · exact same
  · refine Outcome.each_keep (P := fun d => d.targets = c.targets) ?_ same
    intro d declaration _ same
    rw [targets_declare, same]

/-- A load leaves a target as it was or, unless it is ignored, makes it the linked file of that
    name once all files are registered. -/
theorem get?_targets_load (c : Catalog) (r : Request) (name : String) :
    (c.load r).catalog.targets.get? name = c.targets.get? name ∨
      c.loaded = false ∧ (Outcome.each register c r.files).fault = none ∧
      ∃ entry linked, (c.registerAll r).files.get? name = some entry ∧
        (c.registerAll r).linkFile entry = .ok linked ∧
        (c.load r).catalog.targets.get? name = some linked := by
  cases loaded : c.loaded with
  | true =>
      simp only [load, loaded, if_true]
      exact Or.inl trivial
  | false =>
      have finish (o : Outcome) :
          (o.andThen fun c => ⟨{ c with loaded := true }, none⟩).catalog.targets =
            o.catalog.targets := by
        obtain ⟨d, fault⟩ := o
        cases fault <;> rfl
      simp only [load, loaded, Bool.false_eq_true, if_false, finish, registerAll]
      have start := targets_registerAll c r
      unfold registerAll at start
      generalize Outcome.each register c r.files = o at start ⊢
      obtain ⟨d, fault⟩ := o
      cases fault with
      | some fault => exact Or.inl (by rw [← start]; rfl)
      | none =>
          rcases get?_targets_linkTargets d none r.targets name with kept | made
          · exact Or.inl (by rw [← start]; exact kept)
          · exact Or.inr ⟨trivial, rfl, made⟩

/-- A file that a load cannot link is no target by that load. -/
theorem get?_targets_load_of_error {c : Catalog} {r : Request} {name : String} {entry : FileEntry}
    {fault : Fault} (found : (c.registerAll r).files.get? name = some entry)
    (failure : (c.registerAll r).linkFile entry = .error fault) :
    (c.load r).catalog.targets.get? name = c.targets.get? name := by
  rcases get?_targets_load c r name with kept | ⟨-, -, other, linked, same, success, -⟩
  · exact kept
  · rw [found, Option.some.injEq] at same
    subst same
    simp [failure] at success

/-- The load that linked a target, with the commands before and after it. -/
structure LinkedBy (start : Catalog) (commands : List Command) (linked : TargetFile)
    (before : List Command) (r : Request) (after : List Command) : Prop where
  split : commands = before ++ .load r :: after
  notIgnored : (start.run before).loaded = false
  success : ((start.run before).registerAll r).linkFile linked.entry = .ok linked

/-- A target that is there after commands was one before, or some load among them linked it. -/
theorem linkedBy_of_target {start : Catalog} {commands : List Command} {name : String}
    {linked : TargetFile} (found : (start.run commands).targets.get? name = some linked) :
    start.targets.get? name = some linked ∨
      ∃ before r after, LinkedBy start commands linked before r after := by
  induction commands using List.reverseRecOn with
  | nil => exact Or.inl found
  | append_singleton commands command ih =>
      have last : start.run (commands ++ [command]) =
          ((start.run commands).apply command).catalog := by
        simp [run]
      rw [last] at found
      have earlier (kept : (start.run commands).targets.get? name = some linked) :
          start.targets.get? name = some linked ∨
            ∃ before r after, LinkedBy start (commands ++ [command]) linked before r after := by
        rcases ih kept with old | ⟨before, r, after, split, notIgnored, success⟩
        · exact Or.inl old
        · exact Or.inr ⟨before, r, after ++ [command], by simp [split], notIgnored, success⟩
      cases command with
      | setPrefix importPrefix => exact earlier found
      | mapPackage file package => exact earlier found
      | reserve key path =>
          refine earlier ?_
          rcases apply_reserve (start.run commands) key path with same | ⟨-, given⟩
          · rwa [same] at found
          · rwa [given] at found
      | load r =>
          change ((start.run commands).load r).catalog.targets.get? name = some linked at found
          rcases get?_targets_load (start.run commands) r name with
            kept | ⟨notIgnored, -, entry, made, -, success, target⟩
          · exact earlier (kept ▸ found)
          · rw [target, Option.some.injEq] at found
            subst found
            obtain ⟨rfl, -⟩ := links_of_linkFile success
            exact Or.inr ⟨commands, r, [], rfl, notIgnored, success⟩

/-- The load that linked a target leads on to the catalog after all commands. -/
theorem LinkedBy.steps {start : Catalog} {commands : List Command} {linked : TargetFile}
    {before : List Command} {r : Request} {after : List Command}
    (history : LinkedBy start commands linked before r after)
    (registered : start.TargetsRegistered) :
    Steps ((start.run before).registerAll r) (start.run commands) := by
  have first := registered.steps (steps_run registered before)
  have rest : start.run commands = ((start.run before).load r).catalog.run after := by
    rw [history.split]
    simp [run, apply]
  rw [rest]
  exact (steps_load_of_registerAll history.notIgnored r).trans
    (steps_run (first.steps (steps_load first r)) after)

end HttpAdapter.Catalog
