import InvocationRouting.Evaluation.Error
import InvocationRouting.Method
import InvocationRouting.Value.Basic

/-!
# Expr — invocation expressions

An invocation is a handler type and a body. The body should be one method call on the handler; its
arguments are written in a small expression language without side effects, except that a deferred
computation may be observed to run.

- `UnaryOp`, `BinaryOp` : operators and their symbols;
- `Deferred` : a computation that is left until its value is needed;
- `Expr` : expressions, `Expr.kind` : the name of the kind of an expression;
- `Expr.height` : how deeply an expression is nested;
- `Invocation` : a handler type and a body.
-/

namespace InvocationRouting

inductive UnaryOp where
  | neg
  | not
  deriving DecidableEq

inductive BinaryOp where
  | add
  | sub
  | mul
  | div
  | rem
  | eq
  | ne
  | lt
  | le
  | gt
  | ge
  | and
  | or
  deriving DecidableEq

def BinaryOp.symbol : BinaryOp → String
  | add => "+"
  | sub => "-"
  | mul => "*"
  | div => "/"
  | rem => "%"
  | eq => "=="
  | ne => "!="
  | lt => "<"
  | le => "<="
  | gt => ">"
  | ge => ">="
  | and => "&&"
  | or => "||"

inductive DeferredOrigin where
  | computation
  /-- The conversion of a captured value to a value of the expression language. -/
  | conversion
  deriving DecidableEq

/-- A computation that is left until its value is needed. It is known by its label and gives the
same outcome whenever it runs. -/
structure Deferred where
  label : String
  origin : DeferredOrigin
  outcome : Except EvaluationError Value

inductive Expr where
  | constant (value : Value)
  /-- The handler that the invocation is about. -/
  | parameter
  | captured (name : String) (value : Value)
  | member (target : Expr) (name : String)
  | index (target position : Expr)
  | unary (op : UnaryOp) (operand : Expr)
  | binary (op : BinaryOp) (left right : Expr)
  | conditional (condition whenTrue whenFalse : Expr)
  | coalesce (value fallback : Expr)
  | array (elements : List Expr)
  | object (fields : List (String × Expr))
  /-- A method call; a static call has no receiver. -/
  | call (receiver : Option Expr) (method : Method) (arguments : List Expr)
  | deferred (computation : Deferred)

namespace Expr

/-- A floating-point constant that must be finite. -/
def float (reading : FloatReading) : Except EvaluationError Expr :=
  match reading.finite? with
  | some x => .ok (constant (.number (.float x)))
  | none => .error (.nonFiniteNumber "constant")

def isConstant : Expr → Bool
  | constant _ => true
  | _ => false

def isCall : Expr → Bool
  | call .. => true
  | _ => false

def kind : Expr → String
  | constant _ => "constant"
  | parameter => "parameter"
  | captured .. => "captured variable"
  | member .. => "member access"
  | index .. => "index"
  | unary .. => "unary operation"
  | binary .. => "binary operation"
  | conditional .. => "conditional"
  | coalesce .. => "coalesce"
  | array _ => "array"
  | object _ => "object"
  | call .. => "method call"
  | deferred _ => "deferred computation"

mutual

/-- The nesting of an expression, as evaluation meets it: a call is not entered. -/
def height : Expr → Nat
  | constant _ | parameter | captured .. | call .. | deferred _ => 1
  | member target _ => 1 + height target
  | index target position => 1 + max (height target) (height position)
  | unary _ operand => 1 + height operand
  | binary _ left right => 1 + max (height left) (height right)
  | conditional condition whenTrue whenFalse =>
      1 + max (height condition) (max (height whenTrue) (height whenFalse))
  | coalesce value fallback => 1 + max (height value) (height fallback)
  | array elements => 1 + heightElements elements
  | object fields => 1 + heightFields fields

def heightElements : List Expr → Nat
  | [] => 0
  | x :: xs => max (height x) (heightElements xs)

def heightFields : List (String × Expr) → Nat
  | [] => 0
  | (_, x) :: xs => max (height x) (heightFields xs)

end

end Expr

structure Invocation where
  handler : HandlerType
  body : Expr

def Invocation.call (handler : HandlerType) (method : Method) (arguments : List Expr) :
    Invocation :=
  ⟨handler, .call (some .parameter) method arguments⟩

end InvocationRouting
