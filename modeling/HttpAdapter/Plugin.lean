import HttpAdapter.Catalog.Loading
import HttpAdapter.Generation
import HttpAdapter.Settings
import HttpAdapter.Wire.Request
import HttpAdapter.Wire.Varint

/-!
The plugin: a request in bytes is answered by a response in bytes.  A fault on the way is the whole
answer, without any file, or ends the run if it is not one to report.
-/

namespace HttpAdapter.Wire

/-- A response: an error, or files.  `features` says what else of the language is supported. -/
structure Response where
  error : Option String
  features : Option Nat
  files : List GeneratedFile
  deriving DecidableEq, Repr

/-- A field that holds so many bytes. -/
def encodeSized (number : Nat) (bytes : List UInt8) : List UInt8 :=
  encodeVarint (8 * number + 2) ++ encodeVarint bytes.length ++ bytes

/-- A field that holds a text. -/
def encodeText (number : Nat) (s : String) : List UInt8 :=
  encodeSized number s.toUTF8.data.toList

/-- A field that holds a number. -/
def encodeNumber (number value : Nat) : List UInt8 :=
  encodeVarint (8 * number) ++ encodeVarint value

/-- A generated file. -/
def encodeFile (f : GeneratedFile) : List UInt8 := encodeText 1 f.name ++ encodeText 15 f.content

/-- The bytes of a response: the fields that it has, in the order of their numbers. -/
def Response.encode (r : Response) : List UInt8 :=
  (match r.error with
    | some message => encodeText 1 message
    | none => []) ++
  (match r.features with
    | some features => encodeNumber 2 features
    | none => []) ++
  r.files.flatMap fun f => encodeSized 15 (encodeFile f)

end HttpAdapter.Wire

namespace HttpAdapter.Plugin

open Wire

/-- The feature that fields of the third version of the language may be optional. -/
def optionalFields : Nat := 1

variable [Grammar.Interpreter]

/-- The files generated for a request. -/
def generate (r : Request) : Except Fault (List GeneratedFile) := do
  let settings ← Settings.ofParameter r.parameter
  match (Catalog.empty settings.importPrefix settings.packageMap).load r with
  | ⟨_, some fault⟩ => .error fault
  | ⟨catalog, none⟩ =>
      let targets ← r.targets.mapM catalog.target
      generateAll settings.requestContext true targets

/-- The response with files, or with the fault in their place. -/
def report : Except Fault (List GeneratedFile) → Response
  | .ok files => ⟨none, some optionalFields, files⟩
  | .error fault => ⟨some fault.message, some optionalFields, []⟩

/-- The response to a request. -/
def reply (r : Request) : Response := report (generate r)

/-- The response to a request, unless a fault ends the run that is not reported. -/
def process (r : Request) : Except Fault Response :=
  match generate r with
  | .error fault => if fault.isReported then .ok (report (.error fault)) else .error fault
  | .ok files => .ok (report (.ok files))

/-- What is said of bytes that are no request. -/
def refusal (fault : WireFault) : String :=
  "failed to unmarshal code generator request: Error parsing message with type " ++
    "'google.protobuf.compiler.CodeGeneratorRequest': " ++ fault.message

/-- The response to bytes. -/
def respond (bytes : List UInt8) : Except Fault Response :=
  match decodeRequest bytes with
  | .ok r => process r
  | .error fault => .ok ⟨some (refusal fault), none, []⟩

/-- The bytes of the response to bytes. -/
def run (bytes : List UInt8) : Except Fault (List UInt8) := (respond bytes).map (·.encode)

end HttpAdapter.Plugin
