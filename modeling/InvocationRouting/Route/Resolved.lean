import InvocationRouting.Route.Values

/-!
# Route.Resolved — the route that an invocation reaches

- `Route` : the names of a handler and an action, and the route values;
- `Route.same` : equality of routes, by their names and values;
- `Route.display` : the route as a line of text;
- `Route.dictionary`, `Route.dictionaryWith` : the route values together with the two names.
-/

namespace InvocationRouting

/-! ## Keys that carry names instead of route values, unless the settings say otherwise -/

namespace ReservedKeys

def handler : String := "controller"

def action : String := "action"

def area : String := "area"

end ReservedKeys

/-! ## Routes -/

structure Route where
  handlerName : String
  actionName : String
  values : RouteValues

namespace Route

/-- Equality of routes: same names, and equal dictionaries of route values. -/
def same (a b : Route) : Bool :=
  a.handlerName == b.handlerName && a.actionName == b.actionName && a.values == b.values

/-- The route values and the two names under the given keys. A name takes the place of a route value
under its key, and the action name that of the handler name. -/
def dictionaryWith (route : Route) (handlerKey actionKey : String) : RouteValues :=
  (route.values.insert handlerKey (.string route.handlerName)).insert actionKey
    (.string route.actionName)

/-- The route values and the two names under the reserved keys. -/
def dictionary (route : Route) : RouteValues :=
  route.dictionaryWith ReservedKeys.handler ReservedKeys.action

/-- The route in one line: `Handler/Action {key=value, …}`. -/
def display (route : Route) : String :=
  route.handlerName ++ "/" ++ route.actionName ++ " \x7b" ++
    String.intercalate ", " (route.values.sorted.map fun entry => entry.1 ++ "=" ++ entry.2.text) ++
    "\x7d"

def text (route : Route) : String :=
  Json.objectText
    [("handler_name", Json.stringText route.handlerName),
      ("action_name", Json.stringText route.actionName),
      ("route_values", route.values.text)]

end Route
end InvocationRouting
