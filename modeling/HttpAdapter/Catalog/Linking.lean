import HttpAdapter.Catalog.Scope
import HttpAdapter.HttpBinding

/-!
Linking: the services of a file with the messages their methods take and give and the fields that
the variables of their paths stand for.
-/

namespace HttpAdapter.Catalog

/-- The variables of a path with the fields of a request that they stand for. -/
def linkParameters (c : Catalog) (request : MessageEntry) (path : String) :
    Except Fault (List PathParameter) :=
  (pathVariables path).mapM fun name => (c.fieldPath request name).map (⟨name, ·⟩)

/-- The binding of a rule for a request. -/
def linkRule (c : Catalog) (request : MessageEntry) (r : HttpRule) :
    Except Fault LinkedBinding := do
  let b ← r.binding
  let parameters ← c.linkParameters request b.path
  return ⟨b.verb, b.path, b.body, b.responseBody, parameters⟩

/-- The bindings of a method for its request: none without a rule. -/
def linkRules (c : Catalog) (request : MessageEntry) (http : Option HttpRule) :
    Except Fault (List LinkedBinding) :=
  match http with
  | none => .ok []
  | some r => r.withAdditional.mapM (c.linkRule request)

/-- A method, declared as number `index` of its service in a package. -/
def linkMethod (c : Catalog) (package : String) (index : Nat) (m : MethodDecl) :
    Except Fault LinkedMethod := do
  let request ← c.message package m.inputType
  let response ← c.message package m.outputType
  let bindings ← c.linkRules request m.http
  return ⟨m, index, request, response, bindings⟩

/-- Methods declared one after the other, numbered from `index` on. -/
def linkMethods (c : Catalog) (package : String) :
    Nat → List MethodDecl → Except Fault (List LinkedMethod)
  | _, [] => .ok []
  | index, m :: ms => do
      let linked ← c.linkMethod package index m
      let others ← linkMethods c package (index + 1) ms
      return linked :: others

/-- Services declared one after the other, numbered from `index` on.  A service without methods is
    left out, but it counts. -/
def linkServices (c : Catalog) (package : String) :
    Nat → List ServiceDecl → Except Fault (List LinkedService)
  | _, [] => .ok []
  | index, s :: ss => do
      let methods ← c.linkMethods package 0 s.methods
      let others ← linkServices c package (index + 1) ss
      return if methods.isEmpty then others else ⟨s.name, index, methods⟩ :: others

/-- A file with its services. -/
def linkFile (c : Catalog) (entry : FileEntry) : Except Fault TargetFile :=
  (c.linkServices entry.file.decl.packageName 0 entry.file.decl.services).map (⟨entry, ·⟩)

end HttpAdapter.Catalog
