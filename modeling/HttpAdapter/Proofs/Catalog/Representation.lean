import HttpAdapter.Proofs.Catalog.Targets

/-!
How the tables of a catalog agree with each other.  `Consistent` holds of every catalog that
commands lead to, wherever the loads among them were cut off, and every target goes back to the
load that linked it: `consistent_after`, `LinkedBy.methods`.
-/

namespace HttpAdapter.Catalog

/-- A table of what files declare agrees with the files: each entry stands under its name, the
    lists of all files together hold every entry once, and each entry belongs to a registered
    file. -/
structure Listed {α : Type} (files : Table FileEntry) (entries : Table α) (name : α → String)
    (file : α → SourceFile) (list : FileEntry → List α) : Prop where
  keys : ∀ key a, entries.get? key = some a → name a = key
  distinct : entries.keys.Nodup
  lists : (files.flatMap (list ·.2)).Perm (entries.map (·.2))
  registered : ∀ key a, entries.get? key = some a →
    ∃ entry, files.get? (file a).name = some entry ∧ entry.file = file a

section Listed

variable {α : Type} {files : Table FileEntry} {entries : Table α} {name : α → String}
  {file : α → SourceFile} {list : FileEntry → List α}

/-- An entry under a new name, added to its file too. -/
theorem Listed.add (listed : Listed files entries name file list) {a : α}
    {change : FileEntry → FileEntry}
    (own : ∃ entry, files.get? (file a).name = some entry ∧ entry.file = file a)
    (new : entries.get? (name a) = none) (adds : ∀ entry, list (change entry) = list entry ++ [a])
    (same : ∀ entry, (change entry).file = entry.file) :
    Listed (files.update (file a).name change) (entries.set (name a) a) name file list where
  keys := by
    intro key b found
    rw [Table.get?_set] at found
    split at found
    · rename_i equal
      cases found
      exact equal
    · exact listed.keys key b found
  distinct := Table.nodup_keys_set _ _ listed.distinct
  lists := by
    obtain ⟨entry, found, -⟩ := own
    rw [Table.set_of_get?_eq_none a new, List.map_append]
    exact (Table.flatMap_update_perm list found (adds entry)).trans (listed.lists.append_right [a])
  registered := by
    intro key b found
    have before : ∃ entry, files.get? (file b).name = some entry ∧ entry.file = file b := by
      rw [Table.get?_set] at found
      split at found
      · cases found
        exact own
      · exact listed.registered key b found
    obtain ⟨entry, held, mine⟩ := before
    rw [Table.get?_update, held]
    split
    · exact ⟨change entry, rfl, (same entry).trans mine⟩
    · exact ⟨entry, rfl, mine⟩

/-- A change of a file that this table does not see. -/
theorem Listed.update (listed : Listed files entries name file list) (key : String)
    {change : FileEntry → FileEntry} (keeps : ∀ entry, list (change entry) = list entry)
    (same : ∀ entry, (change entry).file = entry.file) :
    Listed (files.update key change) entries name file list where
  keys := listed.keys
  distinct := listed.distinct
  lists := by
    rw [Table.flatMap_update_of_same list keeps]
    exact listed.lists
  registered := by
    intro other a found
    obtain ⟨entry, held, mine⟩ := listed.registered other a found
    rw [Table.get?_update, held]
    split
    · exact ⟨change entry, rfl, (same entry).trans mine⟩
    · exact ⟨entry, rfl, mine⟩

/-- A new file that lists nothing. -/
theorem Listed.openFile (listed : Listed files entries name file list) {key : String}
    {entry : FileEntry} (new : files.get? key = none) (empty : list entry = []) :
    Listed (files.set key entry) entries name file list where
  keys := listed.keys
  distinct := listed.distinct
  lists := by
    rw [Table.set_of_get?_eq_none entry new]
    simpa [empty] using listed.lists
  registered := by
    intro other a found
    obtain ⟨mine, held, same⟩ := listed.registered other a found
    have different : key ≠ (file a).name := by
      rintro rfl
      simp [new] at held
    rw [Table.get?_set, if_neg different]
    exact ⟨mine, held, same⟩

end Listed

/-- The tables of a catalog agree with each other. -/
structure Consistent (c : Catalog) : Prop where
  messages : Listed c.files c.messages MessageEntry.fullName MessageEntry.file FileEntry.messages
  enums : Listed c.files c.enums EnumEntry.fullName EnumEntry.file FileEntry.enums
  fileNames : ∀ key entry, c.files.get? key = some entry → entry.file.name = key
  filesDistinct : c.files.keys.Nodup
  targetFiles : ∀ key linked, c.targets.get? key = some linked →
    linked.name = key ∧ c.files.get? key = some linked.entry
  targetsDistinct : c.targets.keys.Nodup

theorem consistent_empty (importPrefix : String) (packageMap : Table String) :
    (empty importPrefix packageMap).Consistent := by
  constructor
  · constructor <;> simp [empty, Table.get?, Table.keys]
  · constructor <;> simp [empty, Table.get?, Table.keys]
  all_goals simp [empty, Table.get?, Table.keys]

/-- A change of a file that is not linked changes no target. -/
theorem Consistent.targetFiles_update {c : Catalog} (consistent : c.Consistent) {file : SourceFile}
    (noTarget : c.targets.get? file.name = none) (change : FileEntry → FileEntry) (key : String)
    (linked : TargetFile) (found : c.targets.get? key = some linked) :
    linked.name = key ∧ (c.files.update file.name change).get? key = some linked.entry := by
  have different : file.name ≠ key := by
    rintro rfl
    simp [noTarget] at found
  rw [Table.get?_update, if_neg different]
  exact consistent.targetFiles key linked found

/-- A change of a file that keeps what file it is keeps the files under their names. -/
theorem Consistent.fileNames_update {c : Catalog} (consistent : c.Consistent) (name : String)
    {change : FileEntry → FileEntry} (same : ∀ entry, (change entry).file = entry.file)
    (key : String) (entry : FileEntry)
    (found : (c.files.update name change).get? key = some entry) : entry.file.name = key := by
  obtain ⟨old, before, own⟩ := file_of_update found same
  rw [← own]
  exact consistent.fileNames key old before

/-- What may happen to a catalog leaves its tables in agreement. -/
theorem Consistent.step {c d : Catalog} (step : Step c d) (consistent : c.Consistent)
    (registered : c.TargetsRegistered) : d.Consistent := by
  cases step with
  | setPrefix => exact { consistent with }
  | mapPackage => exact { consistent with }
  | reserve => exact { consistent with }
  | finish => exact { consistent with }
  | openFile f new =>
      refine ⟨consistent.messages.openFile new rfl, consistent.enums.openFile new rfl, ?_,
        Table.nodup_keys_set _ _ consistent.filesDistinct, ?_, consistent.targetsDistinct⟩
      · intro key entry found
        simp only [openFile, Table.get?_set] at found
        split at found
        · rename_i equal
          cases found
          exact equal
        · exact consistent.fileNames key entry found
      · intro key linked found
        have different : f.name ≠ key := by
          rintro rfl
          have absent := registered f.name new
          change c.targets.get? f.name = some linked at found
          simp [absent] at found
        simp only [openFile, Table.get?_set, if_neg different]
        exact consistent.targetFiles key linked found
  | addMessage m unlinked member new =>
      exact ⟨consistent.messages.add unlinked.registered new (fun _ => rfl) (fun _ => rfl),
        consistent.enums.update _ (fun _ => rfl) (fun _ => rfl),
        consistent.fileNames_update _ (fun _ => rfl),
        (Table.keys_update _ _ _).symm ▸ consistent.filesDistinct,
        consistent.targetFiles_update unlinked.noTarget _, consistent.targetsDistinct⟩
  | addEnum e unlinked new =>
      exact ⟨consistent.messages.update _ (fun _ => rfl) (fun _ => rfl),
        consistent.enums.add unlinked.registered new (fun _ => rfl) (fun _ => rfl),
        consistent.fileNames_update _ (fun _ => rfl),
        (Table.keys_update _ _ _).symm ▸ consistent.filesDistinct,
        consistent.targetFiles_update unlinked.noTarget _, consistent.targetsDistinct⟩
  | addTarget name entry linked found success =>
      refine { consistent with
        targetFiles := ?_, targetsDistinct := Table.nodup_keys_set _ _ consistent.targetsDistinct }
      intro key other held
      simp only [addTarget, Table.get?_set] at held
      split at held
      · rename_i equal
        cases held
        obtain ⟨rfl, -⟩ := links_of_linkFile success
        subst equal
        exact ⟨consistent.fileNames _ _ found, found⟩
      · exact consistent.targetFiles key other held

/-- The tables of a catalog stay in agreement. -/
theorem Consistent.steps {c d : Catalog} (steps : Steps c d) (consistent : c.Consistent)
    (registered : c.TargetsRegistered) : d.Consistent :=
  (steps.keep (P := fun d => d.Consistent ∧ d.TargetsRegistered)
    (fun _ _ step both => ⟨both.1.step step both.2, both.2.step step⟩)
    ⟨consistent, registered⟩).1

/-- What is held stays with its name. -/
theorem extends_messages_of_step {c d : Catalog} (step : Step c d) :
    c.messages.Extends d.messages := by
  cases step with
  | addMessage m unlinked member new =>
      apply Table.extends_set
      intro old found
      simp [new] at found
  | _ => exact Table.Extends.refl _

theorem extends_messages_of_steps {c d : Catalog} (steps : Steps c d) :
    c.messages.Extends d.messages :=
  steps.keep (P := fun d => c.messages.Extends d.messages)
    (fun _ _ step extension => extension.trans (extends_messages_of_step step))
    (Table.Extends.refl _)

/-- A message that an earlier catalog held stands under its name in a later one. -/
theorem Consistent.get?_of_holds {c d : Catalog} (consistent : d.Consistent) (steps : Steps c d)
    {m : MessageEntry} (held : c.Holds m) : d.messages.get? m.fullName = some m := by
  obtain ⟨key, before⟩ := held
  have found := extends_messages_of_steps steps key m before
  rw [consistent.messages.keys key m found]
  exact found

theorem consistent_after (importPrefix : String) (packageMap : Table String)
    (commands : List Command) : ((empty importPrefix packageMap).run commands).Consistent :=
  have start := targetsRegistered_empty importPrefix packageMap
  (consistent_empty importPrefix packageMap).steps (steps_run start commands) start

/-- The messages that a linked method goes to and through are still there after all commands. -/
theorem LinkedBy.methods {start : Catalog} {commands : List Command} {linked : TargetFile}
    {before : List Command} {r : Request} {after : List Command}
    (history : LinkedBy start commands linked before r after)
    (registered : start.TargetsRegistered) (consistent : (start.run commands).Consistent) :
    ∀ s ∈ linked.services, ∀ m ∈ s.methods,
      (start.run commands).messages.get? m.request.fullName = some m.request ∧
      (start.run commands).messages.get? m.response.fullName = some m.response ∧
      ∀ b ∈ m.bindings, ∀ p ∈ b.parameters,
        ((start.run before).registerAll r).Leads m.request p.fields ∧
        FieldPath.render p.fields = p.name ∧
        ∀ f ∈ p.fields, f ∈ f.message.fields ∧
          (start.run commands).messages.get? f.message.fullName = some f.message := by
  have steps := history.steps registered
  obtain ⟨-, methods⟩ := links_of_linkFile history.success
  intro s service m method
  have links := methods s service m method
  refine ⟨consistent.get?_of_holds steps links.request,
    consistent.get?_of_holds steps links.response, ?_⟩
  intro b binding p parameter
  obtain ⟨leads, spelling⟩ := links.parameters b binding p parameter
  refine ⟨leads, spelling, ?_⟩
  intro f field
  obtain ⟨member, held⟩ := holds_of_leads leads links.request f field
  exact ⟨member, consistent.get?_of_holds steps held⟩

/-- A target goes back to the load that linked it. -/
theorem exists_linkedBy {importPrefix : String} {packageMap : Table String}
    {commands : List Command} {name : String} {linked : TargetFile}
    (found : ((empty importPrefix packageMap).run commands).targets.get? name = some linked) :
    ∃ before r after, LinkedBy (empty importPrefix packageMap) commands linked before r after := by
  rcases linkedBy_of_target found with old | history
  · simp [empty, Table.get?] at old
  · exact history

/-- In every catalog that commands lead to, the tables agree with each other.  Every target was
    linked by one of the loads: its messages are still there, and the variables of its paths lead
    through fields of messages that are there, from the request on as types resolved in that load.
    A file that a load cannot link is no target by that load. -/
theorem consistent_run (importPrefix : String) (packageMap : Table String)
    (commands : List Command) :
    let start := empty importPrefix packageMap
    let c := start.run commands
    c.Consistent ∧
    (∀ name linked, c.targets.get? name = some linked →
      ∃ before r after, LinkedBy start commands linked before r after ∧
        ∀ s ∈ linked.services, ∀ m ∈ s.methods,
          c.messages.get? m.request.fullName = some m.request ∧
          c.messages.get? m.response.fullName = some m.response ∧
          ∀ b ∈ m.bindings, ∀ p ∈ b.parameters,
            ((start.run before).registerAll r).Leads m.request p.fields ∧
            ∀ f ∈ p.fields, f ∈ f.message.fields ∧
              c.messages.get? f.message.fullName = some f.message) ∧
    ∀ r name entry fault, (c.registerAll r).files.get? name = some entry →
      (c.registerAll r).linkFile entry = .error fault →
      (c.load r).catalog.targets.get? name = c.targets.get? name := by
  intro start c
  have registered : start.TargetsRegistered := targetsRegistered_empty importPrefix packageMap
  have consistent : c.Consistent := consistent_after importPrefix packageMap commands
  refine ⟨consistent, ?_, ?_⟩
  · intro name linked found
    obtain ⟨before, r, after, history⟩ := exists_linkedBy found
    refine ⟨before, r, after, history, ?_⟩
    intro s service m method
    obtain ⟨request, response, parameters⟩ :=
      history.methods registered consistent s service m method
    refine ⟨request, response, ?_⟩
    intro b binding p parameter
    obtain ⟨leads, -, fields⟩ := parameters b binding p parameter
    exact ⟨leads, fields⟩
  · intro r name entry fault found failure
    exact get?_targets_load_of_error found failure

/-- After a load that stopped inside a message, a second one links a file before it stops too, and
    a third request has a file that does not link. -/
theorem consistent_run_after_faults :
    let stopped : FileDecl := ⟨"a.proto", some "p", none, none,
      [⟨"M", [], [⟨"N", [], [], []⟩, ⟨"N", [], [], []⟩], []⟩], [], [], []⟩
    let rule : HttpRule := ⟨some (.standard .get "/v1/\x7binner.id\x7d"), "", "", []⟩
    let complete : FileDecl := ⟨"b.proto", some "p", none, none,
      [⟨"R", [⟨"inner", .message, ".p.In", .optional⟩], [], []⟩,
       ⟨"In", [⟨"id", .string, "", .optional⟩], [], []⟩], [],
      [⟨"S", [⟨"Get", "R", ".p.M.N", false, false, some rule⟩]⟩], []⟩
    let broken : FileDecl := ⟨"c.proto", some "p", none, none, [], [],
      [⟨"S", [⟨"Get", "Absent", "R", false, false, none⟩]⟩], []⟩
    let start := empty "" []
    let commands : List Command :=
      [.load ⟨"", [], [stopped]⟩, .load ⟨"", ["b.proto", "absent"], [complete]⟩]
    let c := start.run commands
    (∃ linked, c.targets.get? "b.proto" = some linked ∧ linked.services ≠ [] ∧
      ∃ before r after, LinkedBy start commands linked before r after ∧
        ∀ s ∈ linked.services, ∀ m ∈ s.methods,
          c.messages.get? m.request.fullName = some m.request) ∧
    (c.load ⟨"", ["c.proto"], [broken]⟩).catalog.targets.get? "c.proto" =
      c.targets.get? "c.proto" := by
  intro stopped rule complete broken start commands c
  obtain ⟨-, targets, faults⟩ := consistent_run "" [] commands
  have same : c = (empty "" []).run commands := rfl
  clear_value c
  subst same
  refine ⟨?_, ?_⟩
  · have services :
        (((empty "" []).run commands).targets.get? "b.proto").any (!·.services.isEmpty) := by
      decide +kernel
    obtain ⟨linked, found, full⟩ := (Option.any_eq_true _ _).mp services
    obtain ⟨before, r, after, history, methods⟩ := targets "b.proto" linked found
    refine ⟨linked, found, by simpa using full, before, r, after, history, ?_⟩
    intro s service m method
    exact (methods s service m method).1
  · have failure :
        ((((empty "" []).run commands).registerAll ⟨"", ["c.proto"], [broken]⟩).files.get?
          "c.proto").any fun entry =>
            !((((empty "" []).run commands).registerAll
              ⟨"", ["c.proto"], [broken]⟩).linkFile entry).isOk := by
      decide +kernel
    obtain ⟨entry, found, failed⟩ := (Option.any_eq_true _ _).mp failure
    obtain ⟨fault, linking⟩ := exists_error_of_not_isOk failed
    exact faults _ _ entry fault found linking

end HttpAdapter.Catalog
