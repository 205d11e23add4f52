import HttpAdapter.Catalog.Basic

/-!
Short texts for what a catalog holds, for a reader who looks into one: the kind of an entry, and in
parentheses what tells it from the others.
-/

namespace HttpAdapter

open Text

/-- A kind with what tells an entry of it from the others. -/
def described (kind content : String) : String := kind ++ "(" ++ content ++ ")"

/-- A message, then its fields. -/
def MessageEntry.descriptions (m : MessageEntry) : List String :=
  described "Message" (quoted m.fullName) ::
    m.fields.map fun f => described "Field" (m.fullName ++ "." ++ f.name)

/-- An enumeration. -/
def EnumEntry.description (e : EnumEntry) : String := described "Enum" (quoted e.fullName)

/-- A file with its module, then its messages, then its enumerations. -/
def FileEntry.descriptions (f : FileEntry) : List String :=
  [described "File" (quoted f.file.name), f.file.module.describe] ++
    f.messages.flatMap (·.descriptions) ++ f.enums.map (·.description)

/-- A binding, then the variables of its path. -/
def LinkedBinding.descriptions (b : LinkedBinding) : List String :=
  described "Binding" (b.verb ++ " " ++ b.path) ::
    b.parameters.map fun p => described "Parameter" (quoted p.name)

/-- A method of a service, then its bindings. -/
def LinkedMethod.descriptions (service : String) (m : LinkedMethod) : List String :=
  described "Method" (service ++ "." ++ m.decl.name) :: m.bindings.flatMap (·.descriptions)

/-- A service, then its methods. -/
def LinkedService.descriptions (s : LinkedService) : List String :=
  described "Service" (quoted s.name) :: s.methods.flatMap (·.descriptions s.name)

/-- A linked file, then its services. -/
def TargetFile.descriptions (f : TargetFile) : List String :=
  described "LinkedFile" (quoted f.name) :: f.services.flatMap (·.descriptions)

/-- All files in the order of registration, then all linked ones. -/
def Catalog.descriptions (c : Catalog) : List String :=
  c.files.flatMap (·.2.descriptions) ++ c.targets.flatMap (·.2.descriptions)

end HttpAdapter
