import InvocationRouting.Method
import InvocationRouting.Route.Values

/-!
# Target — what a registered handler action consists of

A dispatch target ties a method to the names under which it is routed, to the keys under which its
parameters appear, to default route values and to fixed constraints.

- `ParameterBinding`, `RouteConstraint`, `DispatchTarget` : the data;
- `DispatchTarget.bindingFor?` : the key that replaces a parameter name;
- `DispatchTarget.same` : equality of targets, by the identity of their methods;
- `DispatchTarget.text` : the text form.
-/

namespace InvocationRouting

/-- A parameter, and the key that replaces its name in route values, if there is one. -/
structure ParameterBinding where
  name : String
  bindingName : Option String
  deriving DecidableEq

/-- The key under which the parameter appears in route values. -/
def ParameterBinding.effectiveName (binding : ParameterBinding) : String :=
  binding.bindingName.getD binding.name

def ParameterBinding.text (binding : ParameterBinding) : String :=
  Json.objectText
    [("name", Json.stringText binding.name),
      ("binding_name", match binding.bindingName with
        | some name => Json.stringText name
        | none => Value.null.text)]

/-- A value that every route of an action has under a key. An empty value imposes nothing. -/
structure RouteConstraint where
  key : String
  value : String
  deriving DecidableEq

/-- Does the constraint impose a value? -/
def RouteConstraint.hasValue (constraint : RouteConstraint) : Bool :=
  !constraint.value.isEmpty

def RouteConstraint.text (constraint : RouteConstraint) : String :=
  Json.objectText
    [("route_key", Json.stringText constraint.key),
      ("route_value", Json.stringText constraint.value)]

structure DispatchTarget where
  method : Method
  handlerName : String
  actionName : String
  bindings : List ParameterBinding
  defaults : RouteValues
  constraints : List RouteConstraint

/-- The key that the first binding of a parameter name puts in its place. -/
def ParameterBinding.find? (bindings : List ParameterBinding) (parameter : String) :
    Option String :=
  (bindings.find? fun binding => binding.name == parameter).bind (·.bindingName)

namespace DispatchTarget

/-- The key that replaces a parameter name, if one is registered. -/
def bindingFor? (target : DispatchTarget) (parameter : String) : Option String :=
  ParameterBinding.find? target.bindings parameter

/-- Equality of targets: their methods identify one method and all else agrees. -/
def same (a b : DispatchTarget) : Bool :=
  a.method == b.method && a.handlerName == b.handlerName && a.actionName == b.actionName &&
    a.bindings == b.bindings && a.defaults == b.defaults && a.constraints == b.constraints

def text (target : DispatchTarget) : String :=
  Json.objectText
    [("method", Json.stringText target.method.display),
      ("handler_name", Json.stringText target.handlerName),
      ("action_name", Json.stringText target.actionName),
      ("parameter_bindings", Json.arrayText (target.bindings.map (·.text))),
      ("default_route_values", target.defaults.text),
      ("route_constraints", Json.arrayText (target.constraints.map (·.text)))]

end DispatchTarget
end InvocationRouting
