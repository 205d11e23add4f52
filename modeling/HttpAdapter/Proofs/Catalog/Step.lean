import HttpAdapter.Catalog.Loading
import HttpAdapter.Proofs.Catalog.Alias
import HttpAdapter.Proofs.Catalog.Declarations
import Mathlib.Logic.Relation

/-!
What may happen to a catalog.  Every command is a row of steps, also one that stops on the way, so
that what each step keeps holds at every point where a load may be cut off: `steps_apply`.
-/

namespace HttpAdapter.Catalog

/-- The catalog with a file that is named but holds nothing yet. -/
def openFile (c : Catalog) (f : FileDecl) : Catalog :=
  { c.withModule (c.moduleOf f) with files := c.files.set f.name ⟨⟨f, c.moduleOf f⟩, [], []⟩ }

/-- The catalog with a message, which its file holds too. -/
def addMessage (c : Catalog) (m : MessageEntry) : Catalog :=
  { c with
    files := c.files.update m.file.name fun entry =>
      { entry with messages := entry.messages ++ [m] },
    messages := c.messages.set m.fullName m }

/-- The catalog with an enumeration, which its file holds too. -/
def addEnum (c : Catalog) (e : EnumEntry) : Catalog :=
  { c with
    files := c.files.update e.file.name fun entry => { entry with enums := entry.enums ++ [e] },
    enums := c.enums.set e.fullName e }

/-- The catalog with a linked file. -/
def addTarget (c : Catalog) (name : String) (linked : TargetFile) : Catalog :=
  { c with targets := c.targets.set name linked }

/-- A file of the catalog. -/
def Registered (c : Catalog) (file : SourceFile) : Prop :=
  ∃ entry, c.files.get? file.name = some entry ∧ entry.file = file

/-- A file of the catalog that is not linked. -/
structure Unlinked (c : Catalog) (file : SourceFile) : Prop where
  registered : c.Registered file
  noTarget : c.targets.get? file.name = none

/-- What may happen to a catalog at once. -/
inductive Step : Catalog → Catalog → Prop
  | setPrefix (c : Catalog) (importPrefix : String) : Step c { c with importPrefix }
  | mapPackage (c : Catalog) (file package : String) :
      Step c { c with packageMap := c.packageMap.set file package }
  | reserve (c : Catalog) (name path : String) :
      c.aliases.get? name = none → Step c { c with aliases := c.aliases.set name path }
  | openFile (c : Catalog) (f : FileDecl) : c.files.get? f.name = none → Step c (c.openFile f)
  | addMessage (c : Catalog) (m : MessageEntry) :
      c.Unlinked m.file → .message m ∈ m.file.declarations →
      c.messages.get? m.fullName = none → Step c (c.addMessage m)
  | addEnum (c : Catalog) (e : EnumEntry) :
      c.Unlinked e.file → c.enums.get? e.fullName = none → Step c (c.addEnum e)
  | addTarget (c : Catalog) (name : String) (entry : FileEntry) (linked : TargetFile) :
      c.files.get? name = some entry → c.linkFile entry = .ok linked →
      Step c (c.addTarget name linked)
  | finish (c : Catalog) : Step c { c with loaded := true }

/-- What may happen to a catalog in time. -/
abbrev Steps : Catalog → Catalog → Prop := Relation.ReflTransGen Step

/-- What no step breaks holds after all of them. -/
theorem Steps.keep {P : Catalog → Prop} (step : ∀ c d, Step c d → P c → P d) {c d : Catalog}
    (steps : Steps c d) (start : P c) : P d := by
  induction steps with
  | refl => exact start
  | tail _ last ih => exact step _ _ last ih

end HttpAdapter.Catalog

namespace HttpAdapter.Outcome

/-- What each step keeps, a row of steps keeps, wherever it stops. -/
theorem each_keep {α : Type} {P : Catalog → Prop} {step : Catalog → α → Outcome} {as : List α}
    (one : ∀ c, ∀ a ∈ as, P c → P (step c a).catalog) {c : Catalog} (start : P c) :
    P (each step c as).catalog := by
  induction as generalizing c with
  | nil => exact start
  | cons a as ih =>
      have first := one c a List.mem_cons_self start
      simp only [each]
      split
      · rename_i d outcome
        rw [outcome] at first
        exact ih (fun c a member => one c a (List.mem_cons_of_mem _ member)) first
      · rename_i d fault outcome
        rw [outcome] at first
        exact first

/-- What both steps keep, one after the other keeps. -/
theorem andThen_keep {P : Catalog → Prop} {o : Outcome} {step : Catalog → Outcome}
    (first : P o.catalog) (second : ∀ c, P c → P (step c).catalog) :
    P (o.andThen step).catalog := by
  obtain ⟨c, fault⟩ := o
  cases fault with
  | none => exact second c first
  | some fault => exact first

theorem andThen_fault (o : Outcome) (step : Catalog → Outcome) :
    (o.andThen step).fault = o.fault.or (step o.catalog).fault := by
  obtain ⟨c, fault⟩ := o
  cases fault <;> rfl

theorem andThen_eq {o : Outcome} (success : o.fault = none) (step : Catalog → Outcome) :
    o.andThen step = step o.catalog := by
  obtain ⟨c, fault⟩ := o
  cases success
  rfl

end HttpAdapter.Outcome

namespace HttpAdapter.Catalog

/-- An entry of changed files goes back to one of the same file. -/
theorem file_of_update {files : Table FileEntry} {key name : String}
    {change : FileEntry → FileEntry} {entry : FileEntry}
    (found : (files.update key change).get? name = some entry)
    (same : ∀ entry, (change entry).file = entry.file) :
    ∃ old, files.get? name = some old ∧ old.file = entry.file := by
  rw [Table.get?_update] at found
  split at found
  · obtain ⟨old, before, rfl⟩ := Option.map_eq_some_iff.mp found
    exact ⟨old, before, (same old).symm⟩
  · exact ⟨entry, found, rfl⟩

/-- A changed file is still registered if it is the same file. -/
theorem Registered.of_update {c d : Catalog} {file : SourceFile} {name : String}
    {change : FileEntry → FileEntry} (registered : c.Registered file)
    (updated : d.files = c.files.update name change)
    (same : ∀ entry, (change entry).file = entry.file) : d.Registered file := by
  obtain ⟨entry, found, own⟩ := registered
  unfold Registered
  rw [updated, Table.get?_update, found]
  split
  · exact ⟨change entry, rfl, (same entry).trans own⟩
  · exact ⟨entry, rfl, own⟩

theorem Registered.addMessage {c : Catalog} {file : SourceFile} (m : MessageEntry)
    (registered : c.Registered file) : (c.addMessage m).Registered file :=
  registered.of_update rfl fun _ => rfl

theorem Registered.addEnum {c : Catalog} {file : SourceFile} (e : EnumEntry)
    (registered : c.Registered file) : (c.addEnum e).Registered file :=
  registered.of_update rfl fun _ => rfl

/-- No file is linked that is not registered. -/
def TargetsRegistered (c : Catalog) : Prop :=
  ∀ name, c.files.get? name = none → c.targets.get? name = none

theorem targetsRegistered_empty (importPrefix : String) (packageMap : Table String) :
    (empty importPrefix packageMap).TargetsRegistered := fun _ _ => rfl

/-- A file that a step leaves unregistered was so before. -/
theorem not_registered_of_step {c d : Catalog} (step : Step c d) {name : String}
    (absent : d.files.get? name = none) : c.files.get? name = none := by
  have kept {change : FileEntry → FileEntry} {key : String}
      (absent : (c.files.update key change).get? name = none) : c.files.get? name = none := by
    rw [Table.get?_eq_none_iff, Table.keys_update] at absent
    exact Table.get?_eq_none_iff.mpr absent
  cases step with
  | openFile f new =>
      simp only [openFile, Table.get?_set] at absent
      split at absent
      · simp at absent
      · exact absent
  | addMessage m unlinked member new => exact kept absent
  | addEnum e unlinked new => exact kept absent
  | _ => exact absent

theorem TargetsRegistered.step {c d : Catalog} (step : Step c d)
    (registered : c.TargetsRegistered) : d.TargetsRegistered := by
  intro name absent
  have before := not_registered_of_step step absent
  cases step with
  | addTarget other entry linked found success =>
      have different : other ≠ name := by
        rintro rfl
        simp [before] at found
      simp only [addTarget, Table.get?_set, if_neg different]
      exact registered name before
  | _ => exact registered name before

theorem TargetsRegistered.steps {c d : Catalog} (steps : Steps c d)
    (registered : c.TargetsRegistered) : d.TargetsRegistered :=
  steps.keep (fun _ _ => TargetsRegistered.step) registered

/-- Registering a declaration of a file that is not linked is a step or none, and leaves the file
    so. -/
theorem steps_declare {c : Catalog} {file : SourceFile} {d : Declaration}
    (unlinked : c.Unlinked file) (member : d ∈ file.declarations) :
    Steps c (c.declare d).catalog ∧ (c.declare d).catalog.Unlinked file := by
  obtain ⟨own, -⟩ := belongsTo_of_mem_declarations member
  cases d with
  | message m =>
      change m.file = file at own
      subst own
      simp only [declare]
      split
      · exact ⟨.refl, unlinked⟩
      · rename_i new
        rw [Option.not_isSome_iff_eq_none] at new
        exact ⟨.single (.addMessage c m unlinked member new),
          unlinked.registered.addMessage m, unlinked.noTarget⟩
  | enum e =>
      change e.file = file at own
      subst own
      simp only [declare]
      split
      · exact ⟨.refl, unlinked⟩
      · rename_i new
        rw [Option.not_isSome_iff_eq_none] at new
        exact ⟨.single (.addEnum c e unlinked new),
          unlinked.registered.addEnum e, unlinked.noTarget⟩

/-- Registering a file is a row of steps, wherever it stops. -/
theorem steps_register {c : Catalog} (registered : c.TargetsRegistered) (f : FileDecl) :
    Steps c (c.register f).catalog := by
  unfold register
  split
  · exact .refl
  · rename_i new
    rw [Option.not_isSome_iff_eq_none] at new
    let file : SourceFile := ⟨f, c.moduleOf f⟩
    have opened : Steps c (c.openFile f) ∧ (c.openFile f).Unlinked file := by
      refine ⟨.single (.openFile c f new), ⟨⟨file, [], []⟩, ?_, rfl⟩, registered f.name new⟩
      simp [openFile, file, SourceFile.name, Table.get?_set]
    refine (Outcome.each_keep (P := fun d => Steps c d ∧ d.Unlinked file) ?_ opened).1
    rintro d a member ⟨steps, unlinked⟩
    obtain ⟨more, still⟩ := steps_declare unlinked member
    exact ⟨steps.trans more, still⟩

/-- The catalog that a load has reached when it is done with the files of the request. -/
def registerAll (c : Catalog) (r : Request) : Catalog := (Outcome.each register c r.files).catalog

theorem steps_registerAll {c : Catalog} (registered : c.TargetsRegistered) (r : Request) :
    Steps c (c.registerAll r) :=
  Outcome.each_keep (P := Steps c)
    (fun _ f _ steps => steps.trans (steps_register (registered.steps steps) f)) .refl

/-- Linking files is a row of steps, wherever it stops. -/
theorem steps_linkTargets (c : Catalog) (first : Option String) (names : List String) :
    Steps c (c.linkTargets first names).catalog := by
  induction names generalizing c first with
  | nil => exact .refl
  | cons name names ih =>
      simp only [linkTargets]
      split
      · exact .refl
      · rename_i entry found
        split
        · split
          · exact .refl
          · rename_i linked success
            exact .head (.addTarget c name entry linked found success) (ih _ _)
        · exact .refl

/-- A load that is not ignored goes on from where its files are registered. -/
theorem steps_load_of_registerAll {c : Catalog} (fresh : c.loaded = false) (r : Request) :
    Steps (c.registerAll r) (c.load r).catalog := by
  simp only [load, fresh, Bool.false_eq_true, if_false]
  refine Outcome.andThen_keep (Outcome.andThen_keep .refl ?_) ?_
  · exact fun d steps => steps.trans (steps_linkTargets d none r.targets)
  · exact fun d steps => steps.tail (.finish d)

theorem steps_load {c : Catalog} (registered : c.TargetsRegistered) (r : Request) :
    Steps c (c.load r).catalog := by
  cases loaded : c.loaded with
  | true =>
      simp only [load, loaded, if_true]
      exact .refl
  | false => exact (steps_registerAll registered r).trans (steps_load_of_registerAll loaded r)

/-- A name is given away if it is free, and else nothing happens. -/
theorem apply_reserve (c : Catalog) (name path : String) :
    (c.apply (.reserve name path)).catalog = c ∨
      c.aliases.get? name = none ∧
        (c.apply (.reserve name path)).catalog =
          { c with aliases := c.aliases.set name path } := by
  cases found : c.aliases.get? name with
  | none => exact Or.inr ⟨rfl, by simp [apply, Catalog.reserve, found]⟩
  | some holder =>
      by_cases same : holder = path
      · exact Or.inl (by simp [apply, Catalog.reserve, found, same])
      · exact Or.inl (by simp [apply, Catalog.reserve, found, same])

/-- A command is a row of steps, also where it stops on the way. -/
theorem steps_apply {c : Catalog} (registered : c.TargetsRegistered) (command : Command) :
    Steps c (c.apply command).catalog := by
  cases command with
  | setPrefix importPrefix => exact .single (.setPrefix c importPrefix)
  | mapPackage file package => exact .single (.mapPackage c file package)
  | reserve name path =>
      rcases apply_reserve c name path with same | ⟨free, given⟩
      · rw [same]
      · rw [given]
        exact .single (.reserve c name path free)
  | load request => exact steps_load registered request

/-- The catalog after commands, whether or not some of them stopped on the way. -/
def run (c : Catalog) (commands : List Command) : Catalog :=
  commands.foldl (fun c command => (c.apply command).catalog) c

theorem steps_run {c : Catalog} (registered : c.TargetsRegistered) (commands : List Command) :
    Steps c (c.run commands) := by
  induction commands generalizing c with
  | nil => exact .refl
  | cons command commands ih =>
      have first := steps_apply registered command
      exact first.trans (ih (registered.steps first))

theorem targetsRegistered_run (importPrefix : String) (packageMap : Table String)
    (commands : List Command) : ((empty importPrefix packageMap).run commands).TargetsRegistered :=
  have start := targetsRegistered_empty importPrefix packageMap
  start.steps (steps_run start commands)

end HttpAdapter.Catalog
