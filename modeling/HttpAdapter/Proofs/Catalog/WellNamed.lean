import HttpAdapter.Proofs.Catalog.LinkFaults
import HttpAdapter.Proofs.Catalog.Origin
import HttpAdapter.Proofs.ModuleNames

/-!
Catalogs in which all names are names of the language.  They come from commands with such names:
`wellNamed_registerAll_run`.  In them a module has a path of names and is imported as one, and the
class of a message is reached through names.
-/

namespace HttpAdapter

open Grammar Text

/-- Whether a verb, if the rule spells it out, holds neither a backslash nor a quote. -/
def HttpRule.hasPlainVerb (r : HttpRule) : Bool :=
  match r.pattern with
  | some (.custom kind _) => !kind.toList.contains '\\' && !kind.toList.contains '"'
  | _ => true

/-- A file in which all names are names of the language, and no verb that is spelled out holds a
    backslash or a quote. -/
structure FileDecl.WellNamed (f : FileDecl) : Prop where
  file : IsNamedFile f.name
  package : f.packageName ≠ "" → ∀ name ∈ split '.' f.packageName, isName name = true
  messages : ∀ m, MessageDecl.Within f.messages m →
    isName m.name = true ∧ ∀ d ∈ m.fields, isName d.name = true
  services : ∀ s ∈ f.services, isName s.name = true
  methods : ∀ m ∈ f.methods, isName m.name = true
  verbs : ∀ m ∈ f.methods, ∀ r ∈ m.rules, r.hasPlainVerb = true

/-- A file that is registered under such names. -/
structure SourceFile.WellNamed (f : SourceFile) : Prop where
  decl : f.decl.WellNamed
  path : IsDotted f.module.path
  name : isName f.module.name = true
  boundName : isName f.module.boundName = true

/-- A message whose class is reached through such names, with fields that have such names. -/
structure MessageEntry.WellNamed (m : MessageEntry) : Prop where
  file : m.file.WellNamed
  className : IsDotted m.className
  fields : ∀ d ∈ m.decl.fields, isName d.name = true

namespace Catalog

/-- Settings that put files below paths of names. -/
def SettingsNamed (importPrefix : String) (packageMap : Table String) : Prop :=
  IsNamePath importPrefix ∧
    ∀ file package, packageMap.get? file = some package → IsNamePath package

/-- A command that brings in no other names. -/
def Command.WellNamed : Command → Prop
  | .setPrefix importPrefix => IsNamePath importPrefix
  | .mapPackage _ package => IsNamePath package
  | .reserve _ _ => True
  | .load r => ∀ f ∈ r.files, f.WellNamed

/-- The module of a file with such names has one too, also where its own name is taken. -/
theorem wellNamed_moduleOf {c : Catalog} (settings : SettingsNamed c.importPrefix c.packageMap)
    {f : FileDecl} (named : f.WellNamed) : (⟨f, c.moduleOf f⟩ : SourceFile).WellNamed where
  decl := named
  path := by
    rw [moduleOf_path]
    exact isDotted_modulePath named.file settings.1 fun package => settings.2 f.name package
  name := by
    rw [moduleOf_name]
    exact isName_preferredName named.file named.package
  boundName := by
    have preferred := isName_preferredName named.file named.package
    rcases moduleOf_boundName c f with own | ⟨i, variant⟩
    · rw [own]
      exact preferred
    · rw [variant]
      exact isName_numbered preferred i

theorem Command.WellNamed.keeps {command : Command} (named : command.WellNamed) :
    command.Keeps SettingsNamed SourceFile.WellNamed := by
  cases command with
  | setPrefix importPrefix => exact fun _ _ old => ⟨named, old.2⟩
  | mapPackage file package =>
      refine fun _ _ old => ⟨old.1, ?_⟩
      intro other held found
      rw [Table.get?_set] at found
      split at found
      · cases found
        exact named
      · exact old.2 other held found
  | reserve name path => trivial
  | load r => exact fun f declared _ settings => wellNamed_moduleOf settings (named f declared)

/-- A catalog in which all names are names of the language. -/
structure WellNamed (c : Catalog) : Prop where
  files : ∀ key entry, c.files.get? key = some entry → entry.file.WellNamed
  messages : ∀ m, c.Holds m → m.WellNamed

variable {importPrefix : String} {packageMap : Table String} {commands : List Command}

end Catalog

end HttpAdapter
