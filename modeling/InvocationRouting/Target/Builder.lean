import InvocationRouting.Target.Basic

/-!
# Target.Builder — dispatch targets, step by step

A builder starts with a method and a handler name. Each step changes one thing, and steps of
different kinds do not touch what the others change.

- `TargetBuilder.ofMethod`, `TargetBuilder.forHandler` : the two ways to start;
- `BuildStep`, `TargetBuilder.apply`, `TargetBuilder.run` : steps, one and many;
- `TargetBuilder.build` : the target.
-/

namespace InvocationRouting

/-- A target that is being put together. -/
structure TargetBuilder where
  method : Method
  handlerName : String
  actionName : Option String
  bindings : List ParameterBinding
  defaults : RouteValues
  constraints : List RouteConstraint

inductive BuildStep where
  | handlerName (name : String)
  | actionName (name : String)
  /-- Puts a key in the place of a parameter name. The method need not declare the parameter. -/
  | bindParameter (parameter bindingName : String)
  | defaultValue (key : String) (value : Value)
  | constraint (key value : String)

namespace TargetBuilder

/-- A builder for a method under a handler name. Its bindings are the declared parameters. -/
def start (method : Method) (handlerName : String) : TargetBuilder where
  method := method
  handlerName := handlerName
  actionName := none
  bindings := method.parameterNames.map fun name => ⟨name, none⟩
  defaults := .empty
  constraints := []

/-- A builder under the conventional name of the declaring type. -/
def ofMethod (method : Method) : TargetBuilder :=
  start method method.declaringType.conventionalName

def forHandler (handler : RouteHandler) (method : Method) : TargetBuilder :=
  start method handler.handlerName

/-- Binds a parameter: the first binding of that name changes, or a new binding is appended. -/
def bind (parameter bindingName : String) : List ParameterBinding → List ParameterBinding
  | [] => [⟨parameter, some bindingName⟩]
  | binding :: rest =>
      if binding.name = parameter then { binding with bindingName := some bindingName } :: rest
      else binding :: bind parameter bindingName rest

def apply (builder : TargetBuilder) : BuildStep → TargetBuilder
  | .handlerName name => { builder with handlerName := name }
  | .actionName name => { builder with actionName := some name }
  | .bindParameter parameter bindingName =>
      { builder with bindings := bind parameter bindingName builder.bindings }
  | .defaultValue key value => { builder with defaults := builder.defaults.insert key value }
  | .constraint key value =>
      { builder with constraints := builder.constraints ++ [⟨key, value⟩] }

def run (builder : TargetBuilder) (steps : List BuildStep) : TargetBuilder :=
  steps.foldl apply builder

/-- The target. An action is called like its method unless it was given a name. -/
def build (builder : TargetBuilder) : DispatchTarget where
  method := builder.method
  handlerName := builder.handlerName
  actionName := builder.actionName.getD builder.method.name
  bindings := builder.bindings
  defaults := builder.defaults
  constraints := builder.constraints

end TargetBuilder
end InvocationRouting
