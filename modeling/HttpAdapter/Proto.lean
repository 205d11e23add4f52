/-!
What a compiler of interface files hands over: the declarations of each file, with the options and
comments that matter here, and the request to generate code for some of the files.  A field that
may be left out and has a meaning of its own when it is holds an `Option`.
-/

namespace HttpAdapter

/-- The methods of HTTP that a rule can name without spelling them out. -/
inductive Verb where
  | get | put | post | delete | patch
  deriving DecidableEq, Repr

/-- The name of a method as rules and generated modules show it. -/
def Verb.name : Verb → String
  | .get => "get"
  | .put => "put"
  | .post => "post"
  | .delete => "delete"
  | .patch => "patch"

/-- What requests an HTTP rule matches: a path under a method, or under a method it spells out. -/
inductive HttpPattern where
  | standard (verb : Verb) (path : String)
  | custom (kind : String) (path : String)
  deriving DecidableEq, Repr

/-- How a service method is exposed over HTTP, with further ways that it is exposed. -/
structure HttpRule where
  pattern : Option HttpPattern
  body : String
  responseBody : String
  additional : List HttpRule
  deriving Repr, Inhabited

/-- The types of fields, in the order of their numbers, which begin with one. -/
inductive FieldType where
  | double | float | int64 | uint64 | int32 | fixed64 | fixed32 | bool | string | group | message
  | bytes | uint32 | enum | sfixed32 | sfixed64 | sint32 | sint64
  deriving DecidableEq, Repr

/-- All types of fields in the order of their numbers. -/
def FieldType.all : List FieldType :=
  [.double, .float, .int64, .uint64, .int32, .fixed64, .fixed32, .bool, .string, .group, .message,
   .bytes, .uint32, .enum, .sfixed32, .sfixed64, .sint32, .sint64]

/-- The number of a type. -/
def FieldType.number (t : FieldType) : Nat := all.idxOf t + 1

/-- The type with a number. -/
def FieldType.ofNumber? : Nat → Option FieldType
  | 0 => none
  | n + 1 => all[n]?

/-- How often a field may occur. -/
inductive FieldLabel where
  | optional | required | repeated
  deriving DecidableEq, Repr

/-- The label with a number. -/
def FieldLabel.ofNumber? : Nat → Option FieldLabel
  | 1 => some .optional
  | 2 => some .required
  | 3 => some .repeated
  | _ => none

/-- A field of a message.  `typeName` names a message or an enumeration, either from the root,
    with a dot in front, or from where the field stands. -/
structure FieldDecl where
  name : String
  type : FieldType
  typeName : String
  label : FieldLabel
  deriving DecidableEq, Repr

/-- An enumeration. -/
structure EnumDecl where
  name : String
  deriving DecidableEq, Repr

/-- A message with the messages and enumerations declared inside it. -/
structure MessageDecl where
  name : String
  fields : List FieldDecl
  nested : List MessageDecl
  enums : List EnumDecl
  deriving Repr, Inhabited

/-- A method of a service. -/
structure MethodDecl where
  name : String
  inputType : String
  outputType : String
  clientStreaming : Bool
  serverStreaming : Bool
  http : Option HttpRule
  deriving Repr

/-- A service. -/
structure ServiceDecl where
  name : String
  methods : List MethodDecl
  deriving Repr

/-- The comments around the declaration at a path of field numbers and indices. -/
structure SourceLocation where
  path : List Int
  leadingDetached : List String
  leading : String
  trailing : String
  deriving DecidableEq, Repr

/-- A file.  `edition` is the name of the language version it is written in, and `goPackage` the
    package that another generator puts it into. -/
structure FileDecl where
  name : String
  package : Option String
  edition : Option String
  goPackage : Option String
  messages : List MessageDecl
  enums : List EnumDecl
  services : List ServiceDecl
  locations : List SourceLocation
  deriving Repr

/-- The package of a file, empty where it has none. -/
def FileDecl.packageName (f : FileDecl) : String := f.package.getD ""

/-- Whether a file is written in the second version of the language, which is the version of a
    file that names none. -/
def FileDecl.isProto2 (f : FileDecl) : Bool := f.edition.all (· == "proto2")

/-- A request to generate code for the files named `targets`. -/
structure Request where
  parameter : String
  targets : List String
  files : List FileDecl
  deriving Repr

end HttpAdapter
