import HttpAdapter.ModulePath
import HttpAdapter.Proto

/-!
What a catalog holds: files with the module that they are imported as, and the messages and
enumerations declared in them, each with its place.
-/

namespace HttpAdapter

open Text

/-- A file with the module that holds its message classes. -/
structure SourceFile where
  decl : FileDecl
  module : ImportedModule
  deriving Repr

/-- The name of a file. -/
def SourceFile.name (f : SourceFile) : String := f.decl.name

/-- The name from the root of what a file declares inside the messages `outers`, outermost first:
    the package and all names, with a dot in front of each. -/
def SourceFile.qualify (f : SourceFile) (outers : List String) (name : String) : String :=
  let package := if f.decl.packageName.isEmpty then [] else [f.decl.packageName]
  join '.' ("" :: package ++ outers ++ [name])

/-- A message, declared as number `index` inside the messages `outers`. -/
structure MessageEntry where
  file : SourceFile
  outers : List String
  decl : MessageDecl
  index : Nat
  deriving Repr

/-- An enumeration, declared as number `index` inside the messages `outers`. -/
structure EnumEntry where
  file : SourceFile
  outers : List String
  decl : EnumDecl
  index : Nat
  deriving Repr

/-- A field of a message. -/
structure FieldEntry where
  message : MessageEntry
  decl : FieldDecl
  deriving Repr

/-- A file with the messages and enumerations that are declared in it. -/
structure FileEntry where
  file : SourceFile
  messages : List MessageEntry
  enums : List EnumEntry
  deriving Repr

/-- The name of a message from the root. -/
def MessageEntry.fullName (m : MessageEntry) : String := m.file.qualify m.outers m.decl.name

/-- The name of an enumeration from the root. -/
def EnumEntry.fullName (e : EnumEntry) : String := e.file.qualify e.outers e.decl.name

/-- The class of a message in generated code: an attribute of the class around it, or of the
    module. -/
def MessageEntry.className (m : MessageEntry) : String :=
  join '.' (m.file.module.boundName :: m.outers ++ [m.decl.name])

/-- The fields of a message. -/
def MessageEntry.fields (m : MessageEntry) : List FieldEntry := m.decl.fields.map (⟨m, ·⟩)

/-- The first field of a name. -/
def MessageEntry.field? (m : MessageEntry) (name : String) : Option FieldEntry :=
  m.fields.find? (·.decl.name == name)

/-- The name of a field. -/
def FieldEntry.name (f : FieldEntry) : String := f.decl.name

/-- Whether the values of a field are messages. -/
def FieldEntry.isMessage (f : FieldEntry) : Bool :=
  f.decl.type == .message || f.decl.type == .group

/-- Whether the values of a field belong to an enumeration. -/
def FieldEntry.isEnum (f : FieldEntry) : Bool := f.decl.type == .enum

/-- Whether a field holds any number of values. -/
def FieldEntry.isRepeated (f : FieldEntry) : Bool := f.decl.label == .repeated

/-- What a file declares. -/
inductive Declaration where
  | message (entry : MessageEntry)
  | enum (entry : EnumEntry)
  deriving Repr

/-- Enumerations declared side by side, numbered from `index` on. -/
def enumDeclarations (file : SourceFile) (outers : List String) :
    Nat → List EnumDecl → List Declaration
  | _, [] => []
  | index, e :: es => .enum ⟨file, outers, e, index⟩ :: enumDeclarations file outers (index + 1) es

mutual

/-- A message, then what its nested messages declare, then its enumerations. -/
def messageDeclarations (file : SourceFile) (outers : List String) (index : Nat) :
    MessageDecl → List Declaration
  | ⟨name, fields, nested, enums⟩ =>
      .message ⟨file, outers, ⟨name, fields, nested, enums⟩, index⟩ ::
        (siblingDeclarations file (outers ++ [name]) 0 nested ++
          enumDeclarations file (outers ++ [name]) 0 enums)

/-- Messages declared side by side, numbered from `index` on, each with what it declares. -/
def siblingDeclarations (file : SourceFile) (outers : List String) (index : Nat) :
    List MessageDecl → List Declaration
  | [] => []
  | m :: ms =>
      messageDeclarations file outers index m ++ siblingDeclarations file outers (index + 1) ms

end

/-- All that a file declares: its messages, outer before inner, and its own enumerations last. -/
def SourceFile.declarations (f : SourceFile) : List Declaration :=
  siblingDeclarations f [] 0 f.decl.messages ++ enumDeclarations f [] 0 f.decl.enums

end HttpAdapter
