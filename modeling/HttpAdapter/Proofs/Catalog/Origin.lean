import HttpAdapter.Proofs.Catalog.Representation

/-!
Where the entries of a catalog come from: files from the requests that were loaded, messages from
what their files declare.  So what all declared files satisfy, all entries do: `filesSatisfy_run`,
`messages_of_steps`.  What they satisfy together with the modules that they are imported as also
depends on the settings at that time: `Governed.run`.
-/

namespace HttpAdapter.Catalog

/-- The settings of a catalog satisfy one property, and all registered files another one, together
    with the modules that they are imported as. -/
structure Governed (S : String → Table String → Prop) (P : SourceFile → Prop) (c : Catalog) :
    Prop where
  settings : S c.importPrefix c.packageMap
  files : ∀ name entry, c.files.get? name = some entry → P entry.file

section Governed

variable {S : String → Table String → Prop} {P : SourceFile → Prop} {c : Catalog}

/-- A changed file is still the same file. -/
theorem Governed.update (governed : c.Governed S P) {d : Catalog} {key : String}
    {change : FileEntry → FileEntry} (settings : S d.importPrefix d.packageMap)
    (updated : d.files = c.files.update key change)
    (same : ∀ entry, (change entry).file = entry.file) : d.Governed S P := by
  refine ⟨settings, ?_⟩
  intro name entry found
  rw [updated] at found
  obtain ⟨old, before, own⟩ := file_of_update found same
  rw [← own]
  exact governed.files name old before

theorem Governed.declare (governed : c.Governed S P) (d : Declaration) :
    (c.declare d).catalog.Governed S P := by
  cases d with
  | message m =>
      simp only [Catalog.declare]
      split
      · exact governed
      · exact governed.update governed.settings rfl fun _ => rfl
  | enum e =>
      simp only [Catalog.declare]
      split
      · exact governed
      · exact governed.update governed.settings rfl fun _ => rfl

theorem Governed.register (governed : c.Governed S P) {f : FileDecl}
    (holds : ∀ d : Catalog, S d.importPrefix d.packageMap → P ⟨f, d.moduleOf f⟩) :
    (c.register f).catalog.Governed S P := by
  unfold Catalog.register
  split
  · exact governed
  · refine Outcome.each_keep (P := Governed S P) (fun _ d _ before => before.declare d) ?_
    refine ⟨governed.settings, ?_⟩
    intro name entry found
    simp only [Table.get?_set] at found
    split at found
    · cases found
      exact holds c governed.settings
    · exact governed.files name entry found

theorem Governed.registerAll (governed : c.Governed S P) {r : Request}
    (holds : ∀ f ∈ r.files, ∀ d : Catalog, S d.importPrefix d.packageMap → P ⟨f, d.moduleOf f⟩) :
    (c.registerAll r).Governed S P :=
  Outcome.each_keep (P := Governed S P) (fun _ f member before => before.register (holds f member))
    governed

theorem Governed.linkTargets (governed : c.Governed S P) (first : Option String)
    (names : List String) : (c.linkTargets first names).catalog.Governed S P := by
  induction names generalizing c first with
  | nil => exact governed
  | cons name names ih =>
      simp only [Catalog.linkTargets]
      split
      · exact governed
      · split
        · split
          · exact governed
          · rename_i linked _
            have same : (c.addTarget name linked).Governed S P :=
              ⟨governed.settings, governed.files⟩
            exact ih same _
        · exact governed

theorem Governed.load (governed : c.Governed S P) {r : Request}
    (holds : ∀ f ∈ r.files, ∀ d : Catalog, S d.importPrefix d.packageMap → P ⟨f, d.moduleOf f⟩) :
    (c.load r).catalog.Governed S P := by
  unfold Catalog.load
  split
  · exact governed
  · refine Outcome.andThen_keep (Outcome.andThen_keep (governed.registerAll holds) ?_) ?_
    · exact fun _ before => before.linkTargets none r.targets
    · exact fun _ before => ⟨before.settings, before.files⟩

/-- What a command must satisfy to keep to these properties. -/
def Command.Keeps (S : String → Table String → Prop) (P : SourceFile → Prop) : Command → Prop
  | .setPrefix importPrefix => ∀ old packageMap, S old packageMap → S importPrefix packageMap
  | .mapPackage file package => ∀ importPrefix packageMap, S importPrefix packageMap →
      S importPrefix (packageMap.set file package)
  | .reserve _ _ => True
  | .load r => ∀ f ∈ r.files, ∀ d : Catalog, S d.importPrefix d.packageMap → P ⟨f, d.moduleOf f⟩

theorem Governed.apply (governed : c.Governed S P) {command : Command}
    (keeps : command.Keeps S P) : (c.apply command).catalog.Governed S P := by
  cases command with
  | setPrefix importPrefix => exact ⟨keeps _ _ governed.settings, governed.files⟩
  | mapPackage file package => exact ⟨keeps _ _ governed.settings, governed.files⟩
  | reserve name path =>
      rcases apply_reserve c name path with same | ⟨-, given⟩
      · rwa [same]
      · rw [given]
        exact ⟨governed.settings, governed.files⟩
  | load r => exact governed.load keeps

theorem Governed.run (governed : c.Governed S P) {commands : List Command}
    (keep : ∀ command ∈ commands, command.Keeps S P) : (c.run commands).Governed S P := by
  induction commands generalizing c with
  | nil => exact governed
  | cons command commands ih =>
      rw [List.forall_mem_cons] at keep
      exact ih (governed.apply keep.1) keep.2

/-- A catalog without files is governed by any properties that its settings satisfy. -/
theorem governed_empty {importPrefix : String} {packageMap : Table String}
    (settings : S importPrefix packageMap) : (empty importPrefix packageMap).Governed S P := by
  refine ⟨settings, ?_⟩
  intro name entry found
  simp [empty, Table.get?] at found

end Governed

/-- All registered files are declared with a property. -/
def FilesSatisfy (P : FileDecl → Prop) (c : Catalog) : Prop :=
  ∀ name entry, c.files.get? name = some entry → P entry.file.decl

/-- What all files of all requests satisfy, all registered files do. -/
theorem filesSatisfy_run {P : FileDecl → Prop} (importPrefix : String) (packageMap : Table String)
    {commands : List Command} (holds : ∀ r, .load r ∈ commands → ∀ f ∈ r.files, P f) :
    ((empty importPrefix packageMap).run commands).FilesSatisfy P := by
  have keep : ∀ command ∈ commands, command.Keeps (fun _ _ => True) fun file => P file.decl := by
    intro command member
    cases command with
    | load r => exact fun f declared _ _ => holds r member f declared
    | _ => simp [Command.Keeps]
  exact ((governed_empty trivial).run keep).files

section Messages

variable {P : MessageEntry → Prop} {importPrefix : String} {packageMap : Table String}
variable {c d : Catalog}

/-- A message that a step adds is one that its file declares. -/
theorem messages_of_step (holds : ∀ m : MessageEntry, .message m ∈ m.file.declarations → P m)
    (step : Step c d) (before : ∀ key m, c.messages.get? key = some m → P m) :
    ∀ key m, d.messages.get? key = some m → P m := by
  cases step with
  | addMessage m unlinked member new =>
      intro key n found
      simp only [addMessage, Table.get?_set] at found
      split at found
      · cases found
        exact holds m member
      · exact before key n found
  | _ => exact before

/-- What all messages satisfy that a file declares, all messages of a catalog do. -/
theorem messages_of_steps (holds : ∀ m : MessageEntry, .message m ∈ m.file.declarations → P m)
    (steps : Steps (empty importPrefix packageMap) c) :
    ∀ key m, c.messages.get? key = some m → P m := by
  refine steps.keep (P := fun c => ∀ key m, c.messages.get? key = some m → P m)
    (fun _ _ => messages_of_step holds) ?_
  intro key m found
  simp [empty, Table.get?] at found

/-- All messages are declared by their files, at some depth. -/
def MessagesDeclared (c : Catalog) : Prop :=
  ∀ key m, c.messages.get? key = some m → MessageDecl.Within m.file.decl.messages m.decl

theorem messagesDeclared_of_steps (steps : Steps (empty importPrefix packageMap) c) :
    c.MessagesDeclared :=
  messages_of_steps (fun m member => (belongsTo_of_mem_declarations member).2 m rfl) steps

end Messages

/-- What the fields of all declared messages satisfy, those of each message of a catalog do. -/
theorem field_of_run {importPrefix : String} {packageMap : Table String}
    {commands : List Command} {P : FieldDecl → Prop}
    (holds : ∀ r, .load r ∈ commands → ∀ f ∈ r.files, ∀ m, MessageDecl.Within f.messages m →
      ∀ d ∈ m.fields, P d)
    {m : MessageEntry} {key : String}
    (found : ((empty importPrefix packageMap).run commands).messages.get? key = some m) :
    ∀ d ∈ m.decl.fields, P d := by
  obtain ⟨entry, registered, same⟩ :=
    (consistent_after importPrefix packageMap commands).messages.registered key m found
  have satisfied := filesSatisfy_run importPrefix packageMap holds _ entry registered
  rw [same] at satisfied
  have steps := steps_run (targetsRegistered_empty importPrefix packageMap) commands
  exact satisfied m.decl (messagesDeclared_of_steps steps key m found)

end HttpAdapter.Catalog
