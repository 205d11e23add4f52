import HttpAdapter.Proofs.Catalog.LinkFaults

/-!
The package of linked files.  The files that one load links are of one package, also if it stops
on the way, since each is compared to the first.  Loads are not compared to each other: a target
is of the package of the load that linked it last, which `targets_onePackage` says of all targets
after any commands.
-/

namespace HttpAdapter

/-- The package of a linked file. -/
def TargetFile.homePackage (f : TargetFile) : String := f.entry.file.decl.homePackage

namespace Catalog

section Linking

/-- Linking files gets past one of this name before anything stops it. -/
def LinksPast (c : Catalog) (first : Option String) (names : List String) (name : String) : Prop :=
  ∃ front back, names = front ++ name :: back ∧
    (c.linkTargets first (front ++ [name])).fault = none

variable {c : Catalog} {first : Option String} {head name : String} {names : List String}

/-- A first file that can be linked sets the package for the others. -/
theorem linkTargets_cons_of_ok {entry : FileEntry} {linked : TargetFile}
    (found : c.files.get? head = some entry)
    (one : first.getD entry.file.decl.homePackage = entry.file.decl.homePackage)
    (success : c.linkFile entry = .ok linked) (names : List String) :
    c.linkTargets first (head :: names) =
      (c.addTarget head linked).linkTargets (some entry.file.decl.homePackage) names := by
  simp only [linkTargets, found, success, one]
  rfl

/-- Either the first of some files stops linking, or it is linked. -/
theorem linkTargets_head (c : Catalog) (first : Option String) (head : String) :
    (∃ fault, ∀ names, c.linkTargets first (head :: names) = ⟨c, some fault⟩) ∨
      ∃ entry linked, c.files.get? head = some entry ∧ c.linkFile entry = .ok linked ∧
        first.getD entry.file.decl.homePackage = entry.file.decl.homePackage := by
  cases found : c.files.get? head with
  | none => exact Or.inl ⟨_, fun names => by simp only [linkTargets, found]; rfl⟩
  | some entry =>
      by_cases one : first.getD entry.file.decl.homePackage = entry.file.decl.homePackage
      · cases success : c.linkFile entry with
        | error fault =>
            refine Or.inl ⟨fault, fun names => ?_⟩
            simp only [linkTargets, found, if_pos one, success]
        | ok linked => exact Or.inr ⟨entry, linked, rfl, success, one⟩
      · exact Or.inl ⟨_, fun names => by simp only [linkTargets, found, if_neg one]; rfl⟩

theorem not_linksPast_of_fault {fault : Fault}
    (stops : ∀ names, c.linkTargets first (head :: names) = ⟨c, some fault⟩) :
    ¬ c.LinksPast first (head :: names) name := by
  rintro ⟨front, back, split, success⟩
  cases front with
  | nil =>
      obtain ⟨rfl, -⟩ := List.cons.inj split
      rw [List.nil_append, stops] at success
      cases success
  | cons other front =>
      obtain ⟨rfl, -⟩ := List.cons.inj split
      rw [List.cons_append, stops] at success
      cases success

/-- Where the first file is linked, one gets past a name at once or among the other files. -/
theorem linksPast_cons_of_ok {entry : FileEntry} {linked : TargetFile}
    (found : c.files.get? head = some entry)
    (one : first.getD entry.file.decl.homePackage = entry.file.decl.homePackage)
    (success : c.linkFile entry = .ok linked) :
    c.LinksPast first (head :: names) name ↔ head = name ∨
      (c.addTarget head linked).LinksPast (some entry.file.decl.homePackage) names name := by
  have onward := linkTargets_cons_of_ok found one success
  constructor
  · rintro ⟨front, back, split, passed⟩
    cases front with
    | nil => exact Or.inl (List.cons.inj split).1
    | cons other front =>
        obtain ⟨rfl, rest⟩ := List.cons.inj split
        rw [List.cons_append, onward] at passed
        exact Or.inr ⟨front, back, rest, passed⟩
  · rintro (rfl | ⟨front, back, split, passed⟩)
    · exact ⟨[], names, rfl, by rw [List.nil_append, onward]; rfl⟩
    · exact ⟨head :: front, back, by rw [split]; rfl, by rw [List.cons_append, onward, passed]⟩

/-- The package that files have to be of: the given one, or that of the first file. -/
def packageOf (c : Catalog) (first : Option String) (names : List String) : String :=
  (first.or (homePackage? c.decl? names)).getD ""

theorem packageOf_cons {entry : FileEntry} (found : c.files.get? head = some entry)
    (one : first.getD entry.file.decl.homePackage = entry.file.decl.homePackage) :
    c.packageOf first (head :: names) = entry.file.decl.homePackage := by
  have declared : c.decl? head = some entry.file.decl := by
    rw [decl?, found, Option.map_some]
  rw [packageOf, homePackage?, List.findSome?_cons, declared]
  cases first with
  | none => rfl
  | some package => exact one

/-- A file that linking gets past is a target of the package that all have to be of; any other is
    a target if it was one. -/
theorem target_of_linkTargets (c : Catalog) (first : Option String) (names : List String)
    (name : String) :
    (c.LinksPast first names name ∧
      ∃ linked, (c.linkTargets first names).catalog.targets.get? name = some linked ∧
        linked.homePackage = c.packageOf first names) ∨
    (¬ c.LinksPast first names name ∧
      (c.linkTargets first names).catalog.targets.get? name = c.targets.get? name) := by
  induction names generalizing c first with
  | nil =>
      refine Or.inr ⟨?_, rfl⟩
      rintro ⟨front, back, split, -⟩
      simp at split
  | cons head names ih =>
      rcases linkTargets_head c first head with ⟨fault, stops⟩ | ⟨entry, made, found, success, one⟩
      · exact Or.inr ⟨not_linksPast_of_fault stops, by rw [stops]⟩
      · rw [linksPast_cons_of_ok found one success, linkTargets_cons_of_ok found one success,
          packageOf_cons found one]
        rcases ih (c.addTarget head made) (some entry.file.decl.homePackage) with
          ⟨passed, linked, target, home⟩ | ⟨missed, kept⟩
        · exact Or.inl ⟨Or.inr passed, linked, target, home⟩
        · rw [kept]
          by_cases same : head = name
          · obtain ⟨own, -⟩ := links_of_linkFile success
            refine Or.inl ⟨Or.inl same, made, ?_, ?_⟩
            · exact (Table.get?_set _ _ _ _).trans (if_pos same)
            · rw [TargetFile.homePackage, own]
          · refine Or.inr ⟨fun linked => linked.elim same missed, ?_⟩
            exact (Table.get?_set _ _ _ _).trans (if_neg same)

end Linking

section Loading

/-- A load links a file: it is not ignored, it registers all files of its request, and of the
    targets it gets past this one. -/
structure LoadLinks (c : Catalog) (r : Request) (name : String) : Prop where
  notIgnored : c.loaded = false
  registers : (Outcome.each register c r.files).fault = none
  links : (c.registerAll r).LinksPast none r.targets name

/-- The package that the targets of a request have to be of. -/
def loadPackage (c : Catalog) (r : Request) : String := (c.registerAll r).packageOf none r.targets

/-- A load makes the files that it links targets of one package and leaves all other targets. -/
theorem target_of_load (c : Catalog) (r : Request) (name : String) :
    (c.LoadLinks r name ∧ ∃ linked, (c.load r).catalog.targets.get? name = some linked ∧
      linked.homePackage = c.loadPackage r) ∨
    (¬ c.LoadLinks r name ∧
      (c.load r).catalog.targets.get? name = c.targets.get? name) := by
  cases ignored : c.loaded with
  | true =>
      refine Or.inr ⟨fun linked => ?_, by rw [load, if_pos ignored]⟩
      rw [linked.notIgnored] at ignored
      cases ignored
  | false =>
      have targets : (c.load r).catalog.targets = ((Outcome.each register c r.files).andThen
          fun c => c.linkTargets none r.targets).catalog.targets := by
        rw [load_eq ignored]
        generalize (Outcome.each register c r.files).andThen _ = o
        obtain ⟨d, fault⟩ := o
        cases fault <;> rfl
      rw [targets]
      have start := targets_registerAll c r
      cases registered : (Outcome.each register c r.files).fault with
      | some fault =>
          refine Or.inr ⟨fun linked => ?_, ?_⟩
          · rw [linked.registers] at registered
            cases registered
          · rw [← start, registerAll]
            generalize Outcome.each register c r.files = o at registered
            obtain ⟨d, fault⟩ := o
            cases registered
            rfl
      | none =>
          rw [Outcome.andThen_eq registered]
          rcases target_of_linkTargets (c.registerAll r) none r.targets name with
            ⟨passed, made⟩ | ⟨missed, kept⟩
          · exact Or.inl ⟨⟨ignored, registered, passed⟩, made⟩
          · refine Or.inr ⟨fun linked => missed linked.links, ?_⟩
            rw [← start]
            exact kept

end Loading

section Sessions

/-- The load that linked a file last, with the commands before and after it. -/
structure LinkedLast (start : Catalog) (commands : List Command) (name : String)
    (before : List Command) (r : Request) (after : List Command) : Prop where
  split : commands = before ++ .load r :: after
  links : (start.run before).LoadLinks r name
  last : ∀ middle r' rest, after = middle ++ .load r' :: rest →
    ¬ (start.run (before ++ .load r :: middle)).LoadLinks r' name

theorem run_append (start : Catalog) (before after : List Command) :
    start.run (before ++ after) = (start.run before).run after := List.foldl_append

theorem run_load (start : Catalog) (commands : List Command) (r : Request) :
    start.run (commands ++ [.load r]) = ((start.run commands).load r).catalog := by
  rw [run_append]
  rfl

/-- Only loads change what is linked. -/
theorem targets_apply {c : Catalog} {command : Command} (other : ∀ r, command ≠ .load r) :
    (c.apply command).catalog.targets = c.targets := by
  cases command with
  | setPrefix importPrefix => rfl
  | mapPackage file package => rfl
  | reserve name path =>
      rcases apply_reserve c name path with same | ⟨-, given⟩
      · rw [same]
      · rw [given]
  | load r => exact absurd rfl (other r)

/-- After a further command that does not link a file, the same load linked it last. -/
theorem LinkedLast.snoc {start : Catalog} {commands before after : List Command} {name : String}
    {r : Request} {command : Command} (history : LinkedLast start commands name before r after)
    (other : ∀ r', command = .load r' → ¬ (start.run commands).LoadLinks r' name) :
    LinkedLast start (commands ++ [command]) name before r (after ++ [command]) where
  split := by rw [history.split, List.append_assoc, List.cons_append]
  links := history.links
  last := by
    intro middle r' rest split
    rcases List.eq_nil_or_concat rest with rfl | ⟨rest, last, rfl⟩
    · obtain ⟨same, final⟩ := List.append_inj' split rfl
      rw [← same, ← history.split]
      exact other r' (List.cons.inj final).1
    · rw [List.concat_eq_append, ← List.cons_append, ← List.append_assoc] at split
      exact history.last middle r' rest (List.append_inj' split rfl).1

/-- A target is of the package of the load that linked it last. -/
theorem linkedLast_of_target {start : Catalog} (none : start.targets = []) {commands : List Command}
    {name : String} {linked : TargetFile}
    (found : (start.run commands).targets.get? name = some linked) :
    ∃ before r after, LinkedLast start commands name before r after ∧
      linked.homePackage = (start.run before).loadPackage r := by
  induction commands using List.reverseRecOn with
  | nil =>
      rw [show start.run [] = start from rfl, none] at found
      cases found
  | append_singleton commands command ih =>
      have earlier (kept : (start.run commands).targets.get? name = some linked)
          (other : ∀ r', command = .load r' → ¬ (start.run commands).LoadLinks r' name) :
          ∃ before r after, LinkedLast start (commands ++ [command]) name before r after ∧
            linked.homePackage = (start.run before).loadPackage r := by
        obtain ⟨before, r, after, history, home⟩ := ih kept
        exact ⟨before, r, after ++ [command], history.snoc other, home⟩
      by_cases load : ∃ r, command = .load r
      · obtain ⟨r, rfl⟩ := load
        rw [run_load] at found
        rcases target_of_load (start.run commands) r name with
          ⟨links, made, target, home⟩ | ⟨missed, kept⟩
        · rw [target, Option.some.injEq] at found
          subst found
          refine ⟨commands, r, [], ⟨rfl, links, ?_⟩, home⟩
          intro middle r' rest split
          simp at split
        · refine earlier (kept ▸ found) ?_
          rintro r' ⟨rfl⟩
          exact missed
      · rw [not_exists] at load
        rw [run_append] at found
        have same : ((start.run commands).run [command]).targets = (start.run commands).targets :=
          targets_apply load
        exact earlier (same ▸ found) fun r' equal => absurd equal (load r')

/-- Of two places in one row, they are the same, or one stands before the other. -/
theorem splits_cases {α : Type} {before after before' after' : List α} {a b : α}
    (same : before ++ a :: after = before' ++ b :: after') :
    (before = before' ∧ a = b) ∨
      (∃ middle, before' = before ++ a :: middle ∧ after = middle ++ b :: after') ∨
      ∃ middle, before = before' ++ b :: middle ∧ after' = middle ++ a :: after := by
  rcases List.append_eq_append_iff.mp same with ⟨middle, later, rest⟩ | ⟨middle, earlier, rest⟩
  · cases middle with
    | nil => exact Or.inl ⟨by rw [later, List.append_nil], (List.cons.inj rest).1⟩
    | cons c middle =>
        obtain ⟨rfl, onward⟩ := List.cons.inj rest
        exact Or.inr (Or.inl ⟨middle, later, onward⟩)
  · cases middle with
    | nil => exact Or.inl ⟨by rw [earlier, List.append_nil], (List.cons.inj rest).1.symm⟩
    | cons c middle =>
        obtain ⟨rfl, onward⟩ := List.cons.inj rest
        exact Or.inr (Or.inr ⟨middle, earlier, onward⟩)

section Agreement

variable {start : Catalog} {commands before after before' after' : List Command}
variable {name other : String} {r r' : Request}

/-- No two loads linked a file last. -/
theorem LinkedLast.unique (history : LinkedLast start commands name before r after)
    (again : LinkedLast start commands name before' r' after') :
    before = before' ∧ r = r' := by
  rcases splits_cases (history.split.symm.trans again.split) with
    ⟨same, load⟩ | ⟨middle, later, rest⟩ | ⟨middle, later, rest⟩
  · exact ⟨same, Command.load.inj load⟩
  · exact absurd (later ▸ again.links) (history.last middle r' after' rest)
  · exact absurd (later ▸ history.links) (again.last middle r after rest)

/-- After a load that linked a file no other load links any. -/
def OneLoadLinks (start : Catalog) (commands : List Command) : Prop :=
  ∀ before r middle r' rest name other,
    commands = before ++ .load r :: (middle ++ .load r' :: rest) →
      (start.run before).LoadLinks r name →
        ¬ (start.run (before ++ .load r :: middle)).LoadLinks r' other

/-- Where no two loads link, all files were linked by the same one. -/
theorem OneLoadLinks.same (one : OneLoadLinks start commands)
    (first : LinkedLast start commands name before r after)
    (second : LinkedLast start commands other before' r' after') :
    before = before' ∧ r = r' := by
  rcases splits_cases (first.split.symm.trans second.split) with
    ⟨same, load⟩ | ⟨middle, later, rest⟩ | ⟨middle, later, rest⟩
  · exact ⟨same, Command.load.inj load⟩
  · exact absurd (later ▸ second.links)
      (one before r middle r' after' name other (rest ▸ first.split) first.links)
  · exact absurd (later ▸ first.links)
      (one before' r' middle r after other name (rest ▸ second.split) second.links)

end Agreement

/-- After any commands, whether or not some of them stopped, each target was linked last by one of
    the loads, and targets that the same load linked last are of one package.  So all targets are,
    unless two loads linked files. -/
theorem targets_onePackage (importPrefix : String) (packageMap : Table String)
    (commands : List Command) :
    let start := empty importPrefix packageMap
    let targets := (start.run commands).targets
    (∀ name linked, targets.get? name = some linked →
      ∃ before r after, LinkedLast start commands name before r after) ∧
    (∀ before r after name linked other linked',
      LinkedLast start commands name before r after →
      LinkedLast start commands other before r after →
      targets.get? name = some linked → targets.get? other = some linked' →
        linked.homePackage = linked'.homePackage) ∧
    (OneLoadLinks start commands → ∀ name linked other linked',
      targets.get? name = some linked → targets.get? other = some linked' →
        linked.homePackage = linked'.homePackage) := by
  intro start targets
  have last {name : String} {linked : TargetFile} (found : targets.get? name = some linked) :=
    linkedLast_of_target (show start.targets = [] from rfl) found
  refine ⟨?_, ?_, ?_⟩
  · intro name linked found
    obtain ⟨before, r, after, history, -⟩ := last found
    exact ⟨before, r, after, history⟩
  · intro before r after name linked other linked' first second found found'
    obtain ⟨_, _, _, history, home⟩ := last found
    obtain ⟨_, _, _, history', home'⟩ := last found'
    obtain ⟨rfl, rfl⟩ := history.unique first
    obtain ⟨rfl, rfl⟩ := history'.unique second
    rw [home, home']
  · intro one name linked other linked' found found'
    obtain ⟨_, _, _, history, home⟩ := last found
    obtain ⟨_, _, _, history', home'⟩ := last found'
    obtain ⟨rfl, rfl⟩ := one.same history history'
    rw [home, home']

/-- A load stops at a missing file, behind two targets of one package.  A second one links a file
    of another package, or it has no target. -/
theorem targets_onePackage_two_loads :
    let file (name package : String) : FileDecl := ⟨name, some package, none, none, [], [], [], []⟩
    let first : Request :=
      ⟨"", ["a.proto", "b.proto", "absent"], [file "a.proto" "p", file "b.proto" "p"]⟩
    let second : Request := ⟨"", ["c.proto"], [file "c.proto" "q"]⟩
    let agree (targets : Table TargetFile) : Prop :=
      ∃ a b, targets.get? "a.proto" = some a ∧ targets.get? "b.proto" = some b ∧
        a.homePackage = b.homePackage
    agree ((empty "" []).run [.load first, .load second]).targets ∧
      agree ((empty "" []).run [.load first, .load ⟨"", [], []⟩]).targets := by
  intro file first second agree
  have links (name : String) (target : name = "a.proto" ∨ name = "b.proto") :
      (empty "" []).LoadLinks first name := by
    refine ⟨rfl, by decide +kernel, ?_⟩
    rcases target with rfl | rfl
    · exact ⟨[], ["b.proto", "absent"], rfl, by decide +kernel⟩
    · exact ⟨["a.proto"], ["absent"], rfl, by decide +kernel⟩
  -- Of a later load, the names of its targets are enough to tell what it cannot link.
  have later {name : String} {r : Request} (absent : name ∉ r.targets) :
      ∀ middle r' rest, [Command.load r] = middle ++ .load r' :: rest →
        ¬ ((empty "" []).run (.load first :: middle)).LoadLinks r' name := by
    rintro middle r' rest split ⟨-, -, front, back, targets, -⟩
    obtain ⟨-, rfl, -⟩ : middle = [] ∧ r' = r ∧ rest = [] := by
      simpa [List.singleton_eq_append_iff] using split
    exact absent (by simp [targets])
  have found (r : Request) (name : String)
      (target : (((empty "" []).run [.load first, .load r]).targets.get? name).isSome) :=
    Option.isSome_iff_exists.mp target
  constructor
  · obtain ⟨a, foundA⟩ := found second "a.proto" (by decide +kernel)
    obtain ⟨b, foundB⟩ := found second "b.proto" (by decide +kernel)
    obtain ⟨-, together, -⟩ := targets_onePackage "" [] [.load first, .load second]
    refine ⟨a, b, foundA, foundB, together [] first [.load second] _ a _ b ?_ ?_ foundA foundB⟩
    · exact ⟨rfl, links _ (Or.inl rfl), later (by decide)⟩
    · exact ⟨rfl, links _ (Or.inr rfl), later (by decide)⟩
  · obtain ⟨a, foundA⟩ := found ⟨"", [], []⟩ "a.proto" (by decide +kernel)
    obtain ⟨b, foundB⟩ := found ⟨"", [], []⟩ "b.proto" (by decide +kernel)
    obtain ⟨-, -, all⟩ := targets_onePackage "" [] [.load first, .load ⟨"", [], []⟩]
    refine ⟨a, b, foundA, foundB, all ?_ _ a _ b foundA foundB⟩
    rintro before r middle r' rest name other split - ⟨-, -, front, back, targets, -⟩
    have same : r' = ⟨"", [], []⟩ := by
      cases before with
      | nil =>
          have parts : first = r ∧ middle = [] ∧ r' = ⟨"", [], []⟩ ∧ rest = [] := by
            simpa [List.singleton_eq_append_iff] using split
          exact parts.2.2.1
      | cons command before => simp [List.singleton_eq_append_iff] at split
    rw [same] at targets
    simp at targets

/-- The targets of two loads may be of different packages: the first stops behind its first target,
    and the second ends well. -/
theorem targets_two_packages :
    let file (name package : String) : FileDecl := ⟨name, some package, none, none, [], [], [], []⟩
    let first : Request := ⟨"", ["a.proto", "absent"], [file "a.proto" "p"]⟩
    let second : Request := ⟨"", ["b.proto"], [file "b.proto" "q"]⟩
    ∃ a b, ((empty "" []).run [.load first, .load second]).targets.get? "a.proto" = some a ∧
      ((empty "" []).run [.load first, .load second]).targets.get? "b.proto" = some b ∧
      a.homePackage ≠ b.homePackage := by
  intro file first second
  let targets := ((empty "" []).run [.load first, .load second]).targets
  have first : (targets.get? "a.proto").any (·.homePackage = "p") := by decide +kernel
  have second : (targets.get? "b.proto").any (·.homePackage = "q") := by decide +kernel
  obtain ⟨a, foundA, homeA⟩ := (Option.any_eq_true _ _).mp first
  obtain ⟨b, foundB, homeB⟩ := (Option.any_eq_true _ _).mp second
  refine ⟨a, b, foundA, foundB, ?_⟩
  rw [of_decide_eq_true homeA, of_decide_eq_true homeB]
  decide

end Sessions

end Catalog

end HttpAdapter
