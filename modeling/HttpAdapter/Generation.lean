import HttpAdapter.Catalog.Basic
import HttpAdapter.Comments
import HttpAdapter.FieldPath
import HttpAdapter.ModulePath
import HttpAdapter.Rendering.Module
import HttpAdapter.Grammar.Program

/-!
From linked files to generated modules.  Only methods that take one message, give one and are
exposed over HTTP get a handler, and only services with a handler appear.
-/

namespace HttpAdapter

/-- A file that has been generated. -/
structure GeneratedFile where
  name : String
  content : String
  deriving DecidableEq, Repr

/-- Whether a method takes one message and gives one. -/
def LinkedMethod.isUnary (m : LinkedMethod) : Bool :=
  !m.decl.clientStreaming && !m.decl.serverStreaming

/-- Whether a method gets a handler. -/
def LinkedMethod.isServed (m : LinkedMethod) : Bool := m.isUnary && !m.bindings.isEmpty

/-- The expression that a generated handler reads its request into. -/
def argumentName : String := "arg"

/-- The route of a binding. -/
def LinkedBinding.outline (b : LinkedBinding) : RouteOutline :=
  ⟨b.verb, b.path, b.parameters.map fun p => (p.name, FieldPath.access p.fields argumentName)⟩

/-- The handler of a method of a service. -/
def LinkedMethod.outline (comments : Comments) (service : Nat) (m : LinkedMethod) :
    HandlerOutline :=
  ⟨m.decl.name, m.request.className, comments.lines (methodPath service m.index),
   m.bindings.map fun b => some b.outline⟩

/-- The methods of a service that get a handler. -/
def LinkedService.served (s : LinkedService) : List LinkedMethod :=
  s.methods.filter (·.isServed)

/-- A service with its handlers. -/
def LinkedService.outline (comments : Comments) (s : LinkedService) : ServiceOutline :=
  ⟨s.name, comments.lines (servicePath s.index),
   s.served.map fun m => some (m.outline comments s.index)⟩

/-- The services of a file that appear. -/
def TargetFile.exposed (f : TargetFile) : List LinkedService :=
  f.services.filter (!·.served.isEmpty)

/-- The first module of each path. -/
def distinctModules (modules : List ImportedModule) : List ImportedModule :=
  modules.foldl (fun ms m => if ms.any (·.path == m.path) then ms else ms ++ [m]) []

/-- The modules that the handlers of a file use, in the order of use. -/
def TargetFile.modules (f : TargetFile) : List ImportedModule :=
  distinctModules ((f.exposed.flatMap (·.served)).map (·.request.file.module))

/-- What the modules generated for a file hold. -/
def TargetFile.outline (f : TargetFile) (requestContext : Bool) : ModuleOutline :=
  let comments := Comments.ofLocations f.entry.file.decl.locations
  ⟨f.entry.file.module.name, f.name, f.modules.map (·.importStatement),
   f.exposed.map fun s => some (s.outline comments), requestContext⟩

/-- The text of a module for a file, not yet tidy. -/
def TargetFile.moduleText (f : TargetFile) (kind : ModuleKind) (requestContext : Bool) :
    Except Fault String :=
  if f.exposed.isEmpty then .error (.nothingToGenerate f.name)
  else (f.outline requestContext).text kind

variable [Grammar.Interpreter]

/-- A module for a file, or none where there is nothing to generate. -/
def TargetFile.generate (f : TargetFile) (kind : ModuleKind) (requestContext : Bool) :
    Except Fault (Option GeneratedFile) :=
  match f.moduleText kind requestContext with
  | .error (.nothingToGenerate _) => .ok none
  | .error fault => .error fault
  | .ok source =>
      let name := outputFile kind f.name
      (tidyProgram name source).map fun content => some ⟨name, content⟩

/-- Modules of one kind for files, in their order. -/
def generateKind (kind : ModuleKind) (requestContext : Bool) (files : List TargetFile) :
    Except Fault (List GeneratedFile) := do
  let modules ← files.mapM fun f => f.generate kind requestContext
  return modules.filterMap id

/-- All modules for files: first the adapters, then the routers if they are asked for. -/
def generateAll (requestContext withRouter : Bool) (files : List TargetFile) :
    Except Fault (List GeneratedFile) := do
  let adapters ← generateKind .adapter requestContext files
  if withRouter then
    let routers ← generateKind .router requestContext files
    return adapters ++ routers
  else return adapters

end HttpAdapter
