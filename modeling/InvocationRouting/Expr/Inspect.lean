import InvocationRouting.Expr.Basic
import InvocationRouting.Value.Inspect

/-!
# Inspected expressions — how an expression was built, as text

`Expr.inspect` and `Invocation.inspect` name every part of an expression. A deferred computation
shows its label as it is.
-/

namespace InvocationRouting

def UnaryOp.inspect : UnaryOp → String
  | neg => "Neg"
  | not => "Not"

def BinaryOp.inspect : BinaryOp → String
  | add => "Add"
  | sub => "Sub"
  | mul => "Mul"
  | div => "Div"
  | rem => "Rem"
  | eq => "Eq"
  | ne => "Ne"
  | lt => "Lt"
  | le => "Le"
  | gt => "Gt"
  | ge => "Ge"
  | and => "And"
  | or => "Or"

namespace Expr

mutual

/-- The structural text. -/
def inspect : Expr → String
  | constant value => Inspect.tuple "Constant" [value.inspect]
  | parameter => "Parameter"
  | captured name value =>
      Inspect.record "Captured" [("name", Inspect.quoted name), ("value", value.inspect)]
  | member target name =>
      Inspect.record "Member" [("target", inspect target), ("member", Inspect.quoted name)]
  | index target position =>
      Inspect.record "Index" [("target", inspect target), ("index", inspect position)]
  | unary op operand =>
      Inspect.record "Unary" [("op", op.inspect), ("operand", inspect operand)]
  | binary op left right =>
      Inspect.record "Binary"
        [("op", op.inspect), ("lhs", inspect left), ("rhs", inspect right)]
  | conditional condition whenTrue whenFalse =>
      Inspect.record "Conditional"
        [("condition", inspect condition), ("when_true", inspect whenTrue),
          ("when_false", inspect whenFalse)]
  | coalesce value fallback =>
      Inspect.record "Coalesce" [("value", inspect value), ("fallback", inspect fallback)]
  | array elements => Inspect.tuple "Array" [Inspect.list (inspectElements elements)]
  | object fields => Inspect.tuple "Object" [Inspect.list (inspectFields fields)]
  | call receiver method arguments =>
      let receiverText := match receiver with
        | none => none
        | some e => some (inspect e)
      Inspect.tuple "Call"
        [Inspect.record "MethodCall"
          [("receiver", Inspect.option receiverText), ("method", method.inspect),
            ("arguments", Inspect.list (inspectElements arguments))]]
  | deferred computation => Inspect.tuple "Deferred" [computation.label]

def inspectElements : List Expr → List String
  | [] => []
  | x :: xs => inspect x :: inspectElements xs

def inspectFields : List (String × Expr) → List String
  | [] => []
  | (name, x) :: xs => Inspect.pair (Inspect.quoted name) (inspect x) :: inspectFields xs

end

end Expr

def Invocation.inspect (invocation : Invocation) : String :=
  Inspect.record "Invocation"
    [("handler", Inspect.quoted invocation.handler.typeName), ("body", invocation.body.inspect)]

end InvocationRouting
