import HttpAdapter.Catalog.Basic
import HttpAdapter.Catalog.Linking

/-!
Loading a request into a catalog.  All files are registered before the first is linked, so that
services may use messages of any file.  A load that stops leaves what it has registered and linked
so far.
-/

namespace HttpAdapter.Catalog

/-- Registers a declaration of a registered file; a name from the root is declared once. -/
def declare (c : Catalog) : Declaration → Outcome
  | .message m =>
      if (c.messages.get? m.fullName).isSome then
        ⟨c, some (.duplicateMessage m.fullName)⟩
      else
        ⟨{ c with
            files := c.files.update m.file.name fun entry =>
              { entry with messages := entry.messages ++ [m] },
            messages := c.messages.set m.fullName m }, none⟩
  | .enum e =>
      if (c.enums.get? e.fullName).isSome then
        ⟨c, some (.duplicateEnum e.fullName)⟩
      else
        ⟨{ c with
            files := c.files.update e.file.name fun entry =>
              { entry with enums := entry.enums ++ [e] },
            enums := c.enums.set e.fullName e }, none⟩

/-- Registers a file and all that it declares. -/
def register (c : Catalog) (f : FileDecl) : Outcome :=
  if (c.files.get? f.name).isSome then ⟨c, some (.duplicateFile f.name)⟩
  else
    let m := c.moduleOf f
    let file : SourceFile := ⟨f, m⟩
    let c := c.withModule m
    Outcome.each declare { c with files := c.files.set f.name ⟨file, [], []⟩ } file.declarations

/-- Links the files of these names, all of one package: that of `first`, if it is given. -/
def linkTargets (first : Option String) (c : Catalog) : List String → Outcome
  | [] => ⟨c, none⟩
  | name :: names =>
      match c.files.get? name with
      | none => ⟨c, some (.missingFile name)⟩
      | some entry =>
          let identity := entry.file.decl.homePackage
          let package := first.getD identity
          if package = identity then
            match c.linkFile entry with
            | .error fault => ⟨c, some fault⟩
            | .ok linked =>
                linkTargets (some package) { c with targets := c.targets.set name linked } names
          else ⟨c, some (.inconsistentPackages package identity)⟩

/-- Loads a request.  A catalog that has loaded one to its end ignores any other. -/
def load (c : Catalog) (r : Request) : Outcome :=
  if c.loaded then ⟨c, none⟩
  else
    ((Outcome.each register c r.files).andThen fun c => c.linkTargets none r.targets).andThen
      fun c => ⟨{ c with loaded := true }, none⟩

/-- What may be done to a catalog. -/
inductive Command where
  | setPrefix (importPrefix : String)
  | mapPackage (file package : String)
  | reserve (name path : String)
  | load (request : Request)
  deriving Repr

/-- Does it. -/
def apply (c : Catalog) : Command → Outcome
  | .setPrefix importPrefix => ⟨{ c with importPrefix }, none⟩
  | .mapPackage file package => ⟨{ c with packageMap := c.packageMap.set file package }, none⟩
  | .reserve name path =>
      match c.reserve name path with
      | .ok c => ⟨c, none⟩
      | .error fault => ⟨c, some fault⟩
  | .load request => c.load request

end HttpAdapter.Catalog
