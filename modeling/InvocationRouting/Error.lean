import InvocationRouting.Evaluation.Error
import InvocationRouting.Method

/-!
# Error — why an invocation has no route

- `ResolveError` : the causes;
- `ResolveError.message` : the wording of each cause;
- `ResolveError.inspect` : its structural text.
-/

namespace InvocationRouting

inductive ResolveError where
  /-- The body is not a single method call with as many arguments as parameters. -/
  | invalidShape (reason : String)
  /-- The call has no receiver. -/
  | staticInvocation (method : Method)
  | targetNotFound (method : Method)
  | evaluation (cause : EvaluationError)

namespace ResolveError

/-- The wording. An evaluation error keeps its own. -/
def message : ResolveError → String
  | invalidShape reason => "Invalid invocation expression: " ++ reason
  | staticInvocation method =>
      "Static invocation not supported: " ++ method.display ++ " has no receiver instance"
  | targetNotFound method =>
      "Dispatch target not found: " ++ method.display ++ " is not registered as a handler action"
  | evaluation cause => cause.message

def inspect : ResolveError → String
  | invalidShape reason =>
      Inspect.record "InvalidExpressionShape" [("reason", Inspect.quoted reason)]
  | staticInvocation method =>
      Inspect.record "StaticInvocationNotSupported" [("method", method.inspect)]
  | targetNotFound method =>
      Inspect.record "DispatchTargetNotFound" [("method", method.inspect)]
  | evaluation cause => Inspect.tuple "Evaluation" [cause.inspect]

end ResolveError
end InvocationRouting
