import InvocationRouting.Analysis
import InvocationRouting.Settings.Basic
import InvocationRouting.Target.Basic

/-!
# Merge — the route of a target for given arguments

Three sources write route values, one after another: the arguments, then the constraints, which take
precedence over arguments, then the defaults, which only fill gaps. A constraint under the handler
key or the action key changes a name instead.

- `Merger` : the policy for defaults and the three reserved keys;
- `Merger.merge` : the route;
- `Merger.mergeInOrder` : the same, with the defaults taken in a given order.
-/

namespace InvocationRouting

structure Merger where
  policy : DefaultPolicy
  handlerKey : String
  actionKey : String
  areaKey : String
  deriving DecidableEq

namespace Merger

def ofSettings (settings : Settings) : Merger :=
  ⟨settings.policy, settings.handlerKey, settings.actionKey, settings.areaKey⟩

/-- The merger of the settings that hold unless others are given. -/
def default : Merger :=
  ofSettings .default

instance : Inhabited Merger := ⟨default⟩

def isNameKey (merger : Merger) (key : String) : Bool :=
  RouteKey.same key merger.handlerKey || RouteKey.same key merger.actionKey

def admitsDefault (merger : Merger) (key : String) : Bool :=
  match merger.policy with
  | .all => !merger.isNameKey key
  | .areaOnly => RouteKey.same key merger.areaKey
  | .none => false

/-- The name of the parameter that an argument is for: the registered declaration counts, and the
caller's name only past its end. -/
def parameterName (target : DispatchTarget) (argument : ArgumentValue) : String :=
  match target.method.parameters[argument.position]? with
  | some parameter => parameter.name
  | none => argument.parameter

def argumentKey (target : DispatchTarget) (argument : ArgumentValue) : String :=
  let name := parameterName target argument
  (target.bindingFor? name).getD name

def writeArguments (target : DispatchTarget) (arguments : List ArgumentValue)
    (values : RouteValues) : RouteValues :=
  arguments.foldl
    (fun values argument => values.insert (argumentKey target argument) argument.value) values

/-- Applies a constraint to the names or to the route values. -/
def applyConstraint (merger : Merger) (route : Route) (constraint : RouteConstraint) : Route :=
  if !constraint.hasValue then route
  -- Where both keys are one, the handler name is meant.
  else if RouteKey.same constraint.key merger.handlerKey then
    { route with handlerName := constraint.value }
  else if RouteKey.same constraint.key merger.actionKey then
    { route with actionName := constraint.value }
  else
    { route with values := route.values.insert constraint.key (.string constraint.value) }

def applyConstraints (merger : Merger) (constraints : List RouteConstraint) (route : Route) :
    Route :=
  constraints.foldl merger.applyConstraint route

/-- Fills gaps with the defaults that may be taken over, in the given order. -/
def fillDefaults (merger : Merger) (defaults : List RouteEntry) (values : RouteValues) :
    RouteValues :=
  defaults.foldl
    (fun values entry =>
      if merger.admitsDefault entry.1 then values.insertIfAbsent entry.1 entry.2 else values)
    values

/-- The route of a target for given arguments, where the defaults are taken in a given order. -/
def mergeInOrder (merger : Merger) (target : DispatchTarget) (arguments : List ArgumentValue)
    (defaults : List RouteEntry) : Route :=
  let constrained := merger.applyConstraints target.constraints
    ⟨target.handlerName, target.actionName, writeArguments target arguments .empty⟩
  { constrained with values := merger.fillDefaults defaults constrained.values }

def merge (merger : Merger) (target : DispatchTarget) (arguments : List ArgumentValue) : Route :=
  merger.mergeInOrder target arguments target.defaults.entries

end Merger
end InvocationRouting
