import InvocationRouting.Evaluation.Operators
import InvocationRouting.Traced

/-!
# Evaluation — the value of an argument expression

Parts are evaluated from left to right, each at most once, and the first failure ends the
evaluation. The logical operators, the conditional and the coalescing operator only evaluate the
parts they need. The trace of an evaluation lists the deferred computations that ran.

- `Expr.evaluateAt` : evaluation at a depth, with or without a limit on the depth;
- `Expr.evaluate` : evaluation with a limit;
- `Expr.evaluateFully` : evaluation without a limit.
-/

namespace InvocationRouting

abbrev Evaluation (α : Type) := Traced Deferred EvaluationError α

/-- The failure at a depth that the limit, if there is one, does not admit. -/
def depthFailure? (limit : Option Nat) (depth : Nat) : Option EvaluationError :=
  match limit with
  | some limit => if limit ≤ depth then some (.depthLimitExceeded limit) else none
  | none => none

def Deferred.run (computation : Deferred) : Evaluation Value :=
  ⟨[computation], computation.outcome⟩

namespace Expr

mutual

/-- The evaluation of an expression that stands at the given depth. -/
def evaluateAt (limit : Option Nat) (depth : Nat) (e : Expr) : Evaluation Value :=
  match depthFailure? limit depth with
  | some failure => .fail failure
  | none =>
      match e with
      | constant value => .done value
      | parameter => .fail .unboundParameter
      | captured _ value => .done value
      | member target name =>
          (evaluateAt limit (depth + 1) target).andThen fun v => .ofExcept (v.member name)
      | index target position =>
          (evaluateAt limit (depth + 1) target).andThen fun v =>
            (evaluateAt limit (depth + 1) position).andThen fun i => .ofExcept (v.select i)
      | unary op operand =>
          (evaluateAt limit (depth + 1) operand).andThen fun v => .ofExcept (op.apply v)
      | binary op left right =>
          match op.stopsAt? with
          | some stop =>
              -- Where the left operand decides, the right one never runs.
              (evaluateAt limit (depth + 1) left).andThen fun v =>
                (Traced.ofExcept (op.expectBool v)).andThen fun a =>
                  if a = stop then
                    .done (.bool a)
                  else
                    (evaluateAt limit (depth + 1) right).andThen fun w =>
                      (Traced.ofExcept (op.expectBool w)).andThen fun b => .done (.bool b)
          | none =>
              (evaluateAt limit (depth + 1) left).andThen fun v =>
                (evaluateAt limit (depth + 1) right).andThen fun w => .ofExcept (op.apply v w)
      | conditional condition whenTrue whenFalse =>
          (evaluateAt limit (depth + 1) condition).andThen fun v =>
            match v with
            | .bool true => evaluateAt limit (depth + 1) whenTrue
            | .bool false => evaluateAt limit (depth + 1) whenFalse
            | other => .fail (.typeMismatch "conditional" "bool" other.typeName)
      | coalesce value fallback =>
          (evaluateAt limit (depth + 1) value).andThen fun v =>
            match v with
            | .null => evaluateAt limit (depth + 1) fallback
            | present => .done present
      | array elements => (evaluateElements limit (depth + 1) elements).map .array
      -- Every field runs, also one that a later field of its name replaces.
      | object fields => (evaluateFields limit (depth + 1) fields).map Value.ofList
      -- A call means something to the analysis of an invocation only.
      | call _ method _ => .fail (.unsupportedNode ("method call " ++ method.display))
      | deferred computation => computation.run

def evaluateElements (limit : Option Nat) (depth : Nat) (es : List Expr) :
    Evaluation (List Value) :=
  match es with
  | [] => .done []
  | e :: es =>
      (evaluateAt limit depth e).andThen fun v =>
        (evaluateElements limit depth es).map (v :: ·)

def evaluateFields (limit : Option Nat) (depth : Nat) (fs : List (String × Expr)) :
    Evaluation (List (String × Value)) :=
  match fs with
  | [] => .done []
  | (name, e) :: fs =>
      (evaluateAt limit depth e).andThen fun v =>
        (evaluateFields limit depth fs).map ((name, v) :: ·)

end

/-- Evaluation in which nesting that reaches the limit fails. -/
def evaluate (limit : Nat) (e : Expr) : Evaluation Value :=
  e.evaluateAt (some limit) 0

def evaluateFully (e : Expr) : Evaluation Value :=
  e.evaluateAt none 0

end Expr
end InvocationRouting
