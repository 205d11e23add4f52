import HttpAdapter.Catalog.Entry
import HttpAdapter.ModulePath
import HttpAdapter.Table

/-!
The catalog of a run: the declarations of all files by their names from the root, the files that
code is generated for, with their services linked to the messages they use, and the names that
modules are imported as.  Steps that may stop on the way give back the catalog they have reached
together with the fault.
-/

namespace HttpAdapter

/-- A variable of a path with the fields that it stands for. -/
structure PathParameter where
  name : String
  fields : List FieldEntry
  deriving Repr

/-- A binding with the variables of its path. -/
structure LinkedBinding where
  verb : String
  path : String
  body : String
  responseBody : String
  parameters : List PathParameter
  deriving Repr

/-- A method with the messages it takes and gives.  The binding of its rule comes first, then
    those of the additional rules; without a rule there is none. -/
structure LinkedMethod where
  decl : MethodDecl
  index : Nat
  request : MessageEntry
  response : MessageEntry
  bindings : List LinkedBinding
  deriving Repr

/-- A service with its linked methods. -/
structure LinkedService where
  name : String
  index : Nat
  methods : List LinkedMethod
  deriving Repr

/-- A file with its linked services. -/
structure TargetFile where
  entry : FileEntry
  services : List LinkedService
  deriving Repr

/-- The name of a linked file. -/
def TargetFile.name (f : TargetFile) : String := f.entry.file.name

/-- A catalog. -/
structure Catalog where
  messages : Table MessageEntry
  enums : Table EnumEntry
  files : Table FileEntry
  /-- The files that code is generated for. -/
  targets : Table TargetFile
  importPrefix : String
  /-- The packages that the settings put files into. -/
  packageMap : Table String
  /-- The names that modules are imported as, with the paths of those modules. -/
  aliases : Table String
  /-- Some request was loaded to its end. -/
  loaded : Bool
  deriving Repr

/-- The names that generated modules use themselves, so that no module is imported as one. -/
def reservedNames : List String :=
  ["Any", "Callable", "Dict", "Optional", "Codec", "CodecBuilder", "Handler", "Options",
   "with_routes", "with_swagger", "self", "srv", "cdc", "request", "response", "arg", "grpc_resp",
   "e", "c", "route", "routes", "handler", "options", "opt", "opts", "apply"]

namespace Catalog

/-- A catalog without files.  The reserved names are held by the empty path, which no module
    has. -/
def empty (importPrefix : String) (packageMap : Table String) : Catalog :=
  ⟨[], [], [], [], importPrefix, packageMap, reservedNames.map ((·, "")), false⟩

/-- The names of all messages from the root, by code point. -/
def messageNames (c : Catalog) : List String := c.messages.keys.mergeSort (· ≤ ·)

/-- The names of all enumerations from the root, by code point. -/
def enumNames (c : Catalog) : List String := c.enums.keys.mergeSort (· ≤ ·)

/-- The names that modules are imported as, without those that are reserved. -/
def importedNames (c : Catalog) : Table String :=
  c.aliases.filter fun entry => !reservedNames.contains entry.1

/-- The file of a name. -/
def file (c : Catalog) (name : String) : Except Fault FileEntry :=
  match c.files.get? name with
  | some entry => .ok entry
  | none => .error (.unknownFile name)

/-- The file of a name that code is generated for. -/
def target (c : Catalog) (name : String) : Except Fault TargetFile :=
  match c.targets.get? name with
  | some linked => .ok linked
  | none => .error (.notTarget name)

/-- The path that the module of a file is imported by. -/
def modulePath (c : Catalog) (f : FileDecl) : String :=
  f.modulePath c.importPrefix (c.packageMap.get? f.name)

end Catalog

/-- The catalog that a step has reached, and the fault that stopped it there, if any did. -/
structure Outcome where
  catalog : Catalog
  fault : Option Fault
  deriving Repr

namespace Outcome

/-- A step for each item, one after the other, up to the first that stops. -/
def each {α : Type} (step : Catalog → α → Outcome) : Catalog → List α → Outcome
  | c, [] => ⟨c, none⟩
  | c, a :: as =>
      match step c a with
      | ⟨c, none⟩ => each step c as
      | ⟨c, some fault⟩ => ⟨c, some fault⟩

/-- A further step, unless this one stopped. -/
def andThen (o : Outcome) (step : Catalog → Outcome) : Outcome :=
  match o with
  | ⟨c, none⟩ => step c
  | ⟨c, some fault⟩ => ⟨c, some fault⟩

end Outcome

/-!
The names that modules are imported as.  A name belongs to the module that takes it first; a
module whose own name is taken gets the first free one of its numbered variants.
-/

namespace Catalog

/-- Whether a name is free, or belongs to the module of that path. -/
def isAvailable (c : Catalog) (name path : String) : Bool :=
  (c.aliases.get? name).all (· == path)

/-- Gives a name to the module of a path. -/
def reserve (c : Catalog) (name path : String) : Except Fault Catalog :=
  match c.aliases.get? name with
  | none => .ok { c with aliases := c.aliases.set name path }
  | some holder => if holder = path then .ok c else .error (.nameTaken name)

/-- The variant of a name with a number. -/
def numbered (name : String) (i : Nat) : String := name ++ "_" ++ toString i

/-- The number of the first variant of a name that is available.  There are more candidates than
    names in use, so that one of them is. -/
def firstNumber (c : Catalog) (name path : String) : Nat :=
  ((List.range (c.aliases.length + 1)).find? fun i => c.isAvailable (numbered name i) path).getD 0

/-- The module of a file, with a name that is available to it. -/
def moduleOf (c : Catalog) (f : FileDecl) : ImportedModule :=
  let path := c.modulePath f
  let name := f.preferredName
  if c.isAvailable name path then ⟨path, name, none⟩
  else ⟨path, name, some (numbered name (c.firstNumber name path))⟩

/-- The catalog in which the module of a file has its name. -/
def withModule (c : Catalog) (m : ImportedModule) : Catalog :=
  { c with aliases := c.aliases.set m.boundName m.path }

end Catalog

end HttpAdapter
