import HttpAdapter.Rendering.Server

/-!
The two kinds of generated module.  The adapter holds the class of each service; the router holds,
in front of each class, a second one that dispatches requests to it by a table of routes.
-/

namespace HttpAdapter

open Text

/-- The class of a service in an adapter. -/
def ServiceOutline.adapterClass (s : ServiceOutline) : String := "HTTP" ++ s.name ++ "Server"

/-- The class of a service in a router. -/
def ServiceOutline.routedClass (s : ServiceOutline) : String := "_HTTP" ++ s.name ++ "Server"

/-- The lines by which every module of a kind imports what it uses of the runtime. -/
def runtimeImports : ModuleKind → List String
  | .adapter =>
      ["from protoc_gen_httprpc.codec import Codec",
       ""]
  | .router =>
      ["from typing import Any, Callable, Dict, Optional",
       "",
       "from protoc_gen_httprpc.codec import Codec, CodecBuilder",
       ""]

/-- The lines between the imports of a module and its services: in a router the options that the
    services take. -/
def interlude : ModuleKind → List String
  | .adapter => []
  | .router =>
      ["",
       "",
       "Handler = Callable[[Any, Any], None]",
       "",
       "",
       "class Options:",
       "",
       "    def __init__(self):",
       "        self.routes: Optional[Dict[str, Optional[Handler]]] = \x7b\x7d",
       "        self.with_swagger = False",
       "",
       "    def validate(self):",
       "        if self.routes is None:",
       "            raise ValueError('nil routes were provided')",
       "",
       "",
       "def with_routes(routes: Dict[str, Optional[Handler]]):",
       "    \"\"\"",
       "    为指定的路由设置处理函数",
       "",
       "    处理函数为 None 时删除该路由",
       "    \"\"\"",
       "    def apply(opts: Options):",
       "        opts.routes = routes",
       "    return apply",
       "",
       "",
       "def with_swagger():",
       "    def apply(opts: Options):",
       "        opts.with_swagger = True",
       "    return apply"]

/-- The lines of a module in front of its services. -/
def ModuleOutline.head (m : ModuleOutline) (kind : ModuleKind) : List String :=
  m.headerLines ++ runtimeImports kind ++ m.imports ++ interlude kind

/-- The lines of a service in an adapter, with two empty lines in front. -/
def adapterService (fault : String → Fault) (requestContext : Bool)
    (entry : Option ServiceOutline) : Except Fault (List String) := do
  let s ← entryOr fault "name" entry
  let lines ← s.render fault requestContext s.adapterClass
  return "" :: "" :: lines

/-- The key of a handler in the table of routes. -/
def routeKey (service handler : String) : String := "/" ++ lower service ++ "/" ++ lower handler

/-- The line of a handler in the table of routes. -/
def routeLine (service : String) (h : HandlerOutline) : String :=
  "            \"" ++ routeKey service h.name ++ "\": self.srv." ++ h.name ++ ","

/-- The lines of the class that dispatches to a service. -/
def ServiceOutline.dispatchLines (s : ServiceOutline) (table : List String) : List String :=
  ["class " ++ s.name ++ "Router:",
   "",
   "    def __init__(self, srv, codec_builder: CodecBuilder, *opts):",
   "        self.srv = _HTTP" ++ s.name ++ "Server(srv, codec_builder())",
   "        self.codec_builder = codec_builder",
   "",
   "        options = Options()",
   "        for opt in opts:",
   "            opt(options)",
   "        options.validate()",
   "",
   "        self.routes: Dict[str, Handler] = \x7b"] ++
  table ++
  ["        \x7d",
   "",
   "        for route, handler in options.routes.items():",
   "            if handler is None:",
   "                self.routes.pop(route, None)",
   "                continue",
   "            self.routes[route] = handler",
   "",
   "    def __call__(self, request, response):",
   "        c = self.codec_builder()",
   "",
   "        try:",
   "            route = c.route(request)",
   "        except Exception as e:",
   "            c.write_error(response, e)",
   "            return",
   "",
   "        handler = self.routes.get(route)",
   "        if handler is None:",
   "            c.write_error(response, LookupError(f'no handler for route \x7broute\x7d'))",
   "            return",
   "",
   "        handler(request, response)"]

/-- The lines of a service in a router, with two empty lines in front of each class.  The table of
    routes names every handler before the first of them is laid out. -/
def routerService (fault : String → Fault) (requestContext : Bool)
    (entry : Option ServiceOutline) : Except Fault (List String) := do
  let s ← entryOr fault "name" entry
  let handlers ← s.handlers.mapM (entryOr fault "name")
  let lines ← s.render fault requestContext s.routedClass
  return "" :: "" :: s.dispatchLines (handlers.map (routeLine s.name)) ++ "" :: "" :: lines

/-- The lines of a module. -/
def ModuleOutline.render (m : ModuleOutline) (kind : ModuleKind) : Except Fault (List String) := do
  let fault := Fault.missingEntry m.source kind
  match kind with
  | .adapter =>
      let services ← m.services.mapM (adapterService fault m.requestContext)
      return m.head .adapter ++ services.flatten
  | .router =>
      let services ← m.services.mapM (routerService fault m.requestContext)
      return m.head .router ++ services.flatten

/-- The text of lines, each with its line end. -/
def textOfLines (lines : List String) : String := String.join (lines.map (· ++ "\n"))

/-- The text of a module. -/
def ModuleOutline.text (m : ModuleOutline) (kind : ModuleKind) : Except Fault String :=
  (m.render kind).map textOfLines

end HttpAdapter
