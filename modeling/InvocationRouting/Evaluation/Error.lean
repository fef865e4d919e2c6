import InvocationRouting.Text.Inspect

/-!
# Evaluation.Error — why an argument has no value

- `EvaluationError` : the causes;
- `EvaluationError.message` : the wording of each cause;
- `EvaluationError.inspect` : its structural text.
-/

namespace InvocationRouting

inductive EvaluationError where
  /-- The handler itself was asked for. -/
  | unboundParameter
  | memberNotFound (member found : String)
  /-- A part of null was asked for. -/
  | nullReference (member : String)
  | indexOutOfRange (index : Int) (length : Nat)
  | typeMismatch (operation expected found : String)
  | divideByZero (operation : String)
  | overflow (operation : String)
  /-- A floating-point result is infinite or undefined. -/
  | nonFiniteNumber (operation : String)
  /-- The expression has a part that only a whole invocation may have. -/
  | unsupportedNode (node : String)
  | depthLimitExceeded (limit : Nat)
  /-- A captured value has no value form. -/
  | serialization (message : String)
  /-- A deferred computation failed for a reason of its own. -/
  | custom (message : String)
  deriving DecidableEq

namespace EvaluationError

def message : EvaluationError → String
  | unboundParameter => "Handler parameter cannot be evaluated during route resolution"
  | memberNotFound member found => "Member '" ++ member ++ "' not found on " ++ found
  | nullReference member => "Null reference while accessing '" ++ member ++ "'"
  | indexOutOfRange index length =>
      "Index " ++ toString index ++ " out of range for array of length " ++ toString length
  | typeMismatch operation expected found =>
      "Type mismatch in " ++ operation ++ ": expected " ++ expected ++ ", found " ++ found
  | divideByZero operation => "Division by zero in " ++ operation
  | overflow operation => "Arithmetic overflow in " ++ operation
  | nonFiniteNumber operation => "Non-finite number produced by " ++ operation
  | unsupportedNode node => "Unsupported expression node in argument position: " ++ node
  | depthLimitExceeded limit => "Expression nesting exceeds depth limit of " ++ toString limit
  | serialization message => "Argument serialization error: " ++ message
  | custom message => message

def inspect : EvaluationError → String
  | unboundParameter => "UnboundParameter"
  | memberNotFound member found =>
      Inspect.record "MemberNotFound"
        [("member", Inspect.quoted member), ("found", Inspect.quoted found)]
  | nullReference member => Inspect.record "NullReference" [("member", Inspect.quoted member)]
  | indexOutOfRange index length =>
      Inspect.record "IndexOutOfRange" [("index", toString index), ("len", toString length)]
  | typeMismatch operation expected found =>
      Inspect.record "TypeMismatch"
        [("operation", Inspect.quoted operation), ("expected", Inspect.quoted expected),
          ("found", Inspect.quoted found)]
  | divideByZero operation =>
      Inspect.record "DivideByZero" [("operation", Inspect.quoted operation)]
  | overflow operation => Inspect.record "Overflow" [("operation", Inspect.quoted operation)]
  | nonFiniteNumber operation =>
      Inspect.record "NonFiniteNumber" [("operation", Inspect.quoted operation)]
  | unsupportedNode node => Inspect.record "UnsupportedNode" [("node", Inspect.quoted node)]
  | depthLimitExceeded limit =>
      Inspect.record "DepthLimitExceeded" [("limit", toString limit)]
  | serialization message =>
      Inspect.record "Serialization" [("message", Inspect.quoted message)]
  | custom message => Inspect.record "Custom" [("message", Inspect.quoted message)]

end EvaluationError
end InvocationRouting
