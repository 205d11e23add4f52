/-!
The causes that stop a step, each with what its message names.
-/

namespace HttpAdapter

/-- Which of the two modules of a file is generated. -/
inductive ModuleKind where
  /-- The servers by themselves. -/
  | adapter
  /-- The servers behind a router that dispatches to them. -/
  | router
  deriving DecidableEq, Repr

/-- The name of a kind of module. -/
def ModuleKind.name : ModuleKind → String
  | .adapter => "adapter"
  | .router => "router"

/-- Why a step stopped. -/
inductive Fault where
  /-- A file that code was asked for is not among the files. -/
  | missingFile (name : String)
  /-- A file was looked up that is not among the files. -/
  | unknownFile (name : String)
  /-- A file was looked up that no code was asked for. -/
  | notTarget (name : String)
  | unknownMessage (name : String)
  | unknownEnum (name : String)
  /-- The message of a field was looked up whose type is no message. -/
  | scalarField (message field : String)
  /-- A path goes on behind a field whose type is no message. -/
  | scalarInPath (path field : String)
  | unknownField (field message : String)
  | duplicateFile (name : String)
  | duplicateMessage (name : String)
  | duplicateEnum (name : String)
  /-- Code was asked for files of two packages. -/
  | inconsistentPackages (first other : String)
  | nameTaken (name : String)
  /-- A flag has a value that is neither true nor false. -/
  | invalidFlag (flag value : String)
  | unknownSetting (text : String)
  /-- An HTTP rule matches nothing. -/
  | missingPattern
  /-- An HTTP rule leaves open the method that it should spell out. -/
  | missingKind (path : String)
  /-- A module was laid out whose outline lacks an entry; `property` was read from it first. -/
  | missingEntry (source : String) (kind : ModuleKind) (property : String)
  /-- A generated module is not a program. -/
  | invalidProgram (file complaint : String)
  /-- A generated module goes to a file whose name holds the null character. -/
  | nullInFileName (file : String)
  /-- A file has nothing to generate code for. -/
  | nothingToGenerate (file : String)
  deriving DecidableEq, Repr

/-- Whether a request is answered by the message of the fault.  The name of a file with the null
    character ends the run instead, and a file without anything to generate is passed over. -/
def Fault.isReported : Fault → Bool
  | .nullInFileName _ | .nothingToGenerate _ => false
  | _ => true

/-- The message of a fault. -/
def Fault.message : Fault → String
  | .missingFile name => "no such file: " ++ name
  | .unknownFile name => "no such file given: " ++ name
  | .notTarget name => "file is not a generation target: " ++ name
  | .unknownMessage name => "no message found: " ++ name
  | .unknownEnum name => "no enum found: " ++ name
  | .scalarField message field => message ++ "." ++ field ++ " is not a message field"
  | .scalarInPath path field => path ++ ": " ++ field ++ " is not a message field"
  | .unknownField field message => "no field " ++ field ++ " in " ++ message
  | .duplicateFile name => "duplicate file: " ++ name
  | .duplicateMessage name => "duplicate message: " ++ name
  | .duplicateEnum name => "duplicate enum: " ++ name
  | .inconsistentPackages first other =>
      "inconsistent package names: " ++ first ++ " " ++ other
  | .nameTaken name => "package name " ++ name ++ " is already taken. Use another alias"
  | .invalidFlag flag value => "invalid value for " ++ flag ++ ": " ++ value
  | .unknownSetting text => "cannot set flag " ++ text
  | .missingPattern => "http rule declares no pattern"
  | .missingKind path => "custom http rule " ++ path ++ " declares no kind"
  | .missingEntry source kind property =>
      source ++ ": failed to render " ++ kind.name ++ " template: 'None' has no attribute '" ++
        property ++ "'"
  | .invalidProgram file complaint =>
      file ++ ": generated code is not valid python: " ++ complaint
  | .nullInFileName _ => "embedded null character"
  | .nothingToGenerate file => "no target service defined in the file: " ++ file

end HttpAdapter
