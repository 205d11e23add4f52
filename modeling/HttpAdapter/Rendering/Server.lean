import HttpAdapter.Fault
import HttpAdapter.Text.LetterCase

/-!
What a generated module holds, before it is laid out: services, their handlers and the routes of
those.  An entry of these lists may be missing; then the module cannot be laid out.  Both kinds of
module share the header, and the class of a service with a method for each handler.
-/

namespace HttpAdapter

/-- A route of a handler: a method, a path, and the variables of the path with the expressions for
    their values. -/
structure RouteOutline where
  verb : String
  path : String
  parameters : List (String × String)
  deriving DecidableEq, Repr

/-- A handler, which makes its argument as an instance of a class. -/
structure HandlerOutline where
  name : String
  argument : String
  comment : List String
  routes : List (Option RouteOutline)
  deriving DecidableEq, Repr

/-- A service. -/
structure ServiceOutline where
  name : String
  comment : List String
  handlers : List (Option HandlerOutline)
  deriving DecidableEq, Repr

/-- A module made from the file `source`. -/
structure ModuleOutline where
  package : String
  source : String
  imports : List String
  services : List (Option ServiceOutline)
  requestContext : Bool
  deriving DecidableEq, Repr

/-- An entry that should be there; the property is what is read from it first. -/
def entryOr (fault : String → Fault) (property : String) {α : Type} :
    Option α → Except Fault α
  | some a => .ok a
  | none => .error (fault property)

/-!
Text inside a docstring.  A backslash is doubled, and each quote of a run of three gets a backslash
in front, so that the text cannot end the docstring and reads back as it was.
-/

/-- The characters of a docstring line. -/
def escapeDocstringChars : List Char → List Char
  | [] => []
  | '"' :: '"' :: '"' :: cs =>
      '\\' :: '"' :: '\\' :: '"' :: '\\' :: '"' :: escapeDocstringChars cs
  | '\\' :: cs => '\\' :: '\\' :: escapeDocstringChars cs
  | c :: cs => c :: escapeDocstringChars cs

/-- A docstring line. -/
def escapeDocstring (line : String) : String := String.ofList (escapeDocstringChars line.toList)

/-! The lines of a header and of the class of a service. -/

open Text

/-- The lines of a route in the docstring of its handler. -/
def RouteOutline.lines (r : RouteOutline) : List String :=
  ["", "        " ++ upper r.verb ++ " " ++ escapeDocstring r.path] ++
    r.parameters.map fun (name, expr) => "            " ++ name ++ " -> " ++ expr

/-- The lines of a handler with the lines of its routes. -/
def HandlerOutline.lines (h : HandlerOutline) (requestContext : Bool) (routes : List String) :
    List String :=
  ["    def " ++ h.name ++ "(self, request, response):",
   "        \"\"\""] ++
  h.comment.map (fun line => "        " ++ escapeDocstring line) ++
  routes ++
  ["        \"\"\"",
   "        arg = " ++ h.argument ++ "()",
   "        try:",
   "            self.cdc.read_request(request, arg)",
   "        except Exception as e:",
   "            self.cdc.write_error(response, e)",
   "            return",
   "",
   "        try:",
   "            grpc_resp = self.srv." ++ h.name ++ "(arg, " ++
     (if requestContext then "request" else "None") ++ ")",
   "        except Exception as e:",
   "            self.cdc.write_error(response, e)",
   "            return",
   "",
   "        self.cdc.write_response(response, grpc_resp)"]

/-- The lines of the class of a service up to its handlers. -/
def ServiceOutline.headLines (s : ServiceOutline) (className : String) : List String :=
  ["class " ++ className ++ ":",
   "    \"\"\""] ++
  s.comment.map (fun line => "    " ++ escapeDocstring line) ++
  ["    \"\"\"",
   "",
   "    def __init__(self, srv, cdc: Codec):",
   "        self.srv = srv",
   "        self.cdc = cdc"]

/-- The lines of a handler whose routes may be missing. -/
def HandlerOutline.render (fault : String → Fault) (requestContext : Bool) (h : HandlerOutline) :
    Except Fault (List String) := do
  let routes ← h.routes.mapM (entryOr fault "method")
  return h.lines requestContext (routes.flatMap (·.lines))

/-- The lines of the class of a service whose handlers may be missing; an empty line stands in
    front of each handler. -/
def ServiceOutline.render (fault : String → Fault) (requestContext : Bool) (className : String)
    (s : ServiceOutline) : Except Fault (List String) := do
  let handlers ← s.handlers.mapM fun entry => do
    let h ← entryOr fault "name" entry
    let lines ← h.render fault requestContext
    return "" :: lines
  return s.headLines className ++ handlers.flatten

/-- The lines that say where a module comes from. -/
def ModuleOutline.headerLines (m : ModuleOutline) : List String :=
  ["# Code generated by protoc-gen-httprpc. DO NOT EDIT.",
   "# source: " ++ m.source,
   "# package: " ++ m.package]

end HttpAdapter
