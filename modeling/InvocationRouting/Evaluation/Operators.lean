import InvocationRouting.Expr.Basic
import InvocationRouting.Value.Json

/-!
# Evaluation.Operators — what operators do to values

- `Value.member`, `Value.select` : parts of objects and arrays;
- `UnaryOp.apply` : negation;
- `ArithmeticOp.apply` : arithmetic;
- `BinaryOp.apply` : every operator on two values. Evaluation uses it for the operators that need
  both operands; the logical ones may stop at the first (`BinaryOp.stopsAt?`).

Integer arithmetic is exact and fails when the result fits no word; the wide words in which results
are formed lose none that fits. As soon as one operand is a floating-point number, the other is
rounded to one and the result must be finite.
-/

namespace InvocationRouting

namespace Value

def member (target : Value) (name : String) : Except EvaluationError Value :=
  match target with
  | object fields =>
      match Fields.get? fields name with
      | some v => .ok v
      | none => .error (.memberNotFound name "object")
  | null => .error (.nullReference name)
  | other => .error (.typeMismatch ("member access '" ++ name ++ "'") "object" other.typeName)

/-- The element of an array at a position that may be out of range. -/
def element (elements : List Value) (position : Int) : Except EvaluationError Value :=
  match position with
  | .ofNat i =>
      match elements[i]? with
      | some v => .ok v
      | none => .error (.indexOutOfRange position elements.length)
  | .negSucc _ => .error (.indexOutOfRange position elements.length)

/-- The part of an array or object that an index selects. A position must be a signed word. -/
def select (target index : Value) : Except EvaluationError Value :=
  match target, index with
  | null, _ => .error (.nullReference ("[" ++ index.text ++ "]"))
  | array elements, number (.int i) =>
      match i.signed? with
      | some position => element elements position
      | none => .error (.typeMismatch "index" "integer" "non-integer number")
  | array _, number (.float _) => .error (.typeMismatch "index" "integer" "non-integer number")
  | object _, string name => target.member name
  | array _, other => .error (.typeMismatch "index" "integer" other.typeName)
  | object _, other => .error (.typeMismatch "index" "string" other.typeName)
  | other, _ => .error (.typeMismatch "index" "array or object" other.typeName)

/-- The text of an operand of a concatenation: nothing for null, a string as it is. -/
def concatText : Value → String
  | null => ""
  | string s => s
  | other => other.text

/-- Do the values compare equal? Numbers compare by value, whatever their kind. -/
def equals (left right : Value) : Bool :=
  match left, right with
  | number a, number b => a.sameValue b
  | _, _ => left.same right

/-- The two kinds of operands that do not fit together. -/
def kindPair (left right : Value) : String :=
  left.typeName ++ " and " ++ right.typeName

def order (op : BinaryOp) (left right : Value) : Except EvaluationError Ordering :=
  match left, right with
  | string a, string b => .ok (compare a b)
  | number a, number b =>
      match a.order? b with
      | some o => .ok o
      | none => .error (.nonFiniteNumber op.symbol)
  | _, _ => .error (.typeMismatch op.symbol "two numbers or two strings" (kindPair left right))

end Value

def integerResult (operation : String) (i : Int) : Except EvaluationError Value :=
  match Value.ofInt? i with
  | some v => .ok v
  | none => .error (.overflow operation)

def floatResult (operation : String) (x : Option Binary64) : Except EvaluationError Value :=
  match x with
  | some x => .ok (.number (.float x))
  | none => .error (.nonFiniteNumber operation)

def UnaryOp.apply (op : UnaryOp) (operand : Value) : Except EvaluationError Value :=
  match op, operand with
  | not, .bool b => .ok (.bool !b)
  | neg, .number (.int i) => integerResult "-" (-i.val)
  | neg, .number (.float x) => floatResult "-" (some x.neg)
  | not, other => .error (.typeMismatch "!" "bool" other.typeName)
  | neg, other => .error (.typeMismatch "-" "number" other.typeName)

inductive ArithmeticOp where
  | add
  | sub
  | mul
  | div
  | rem
  deriving DecidableEq

namespace ArithmeticOp

def toBinaryOp : ArithmeticOp → BinaryOp
  | add => .add
  | sub => .sub
  | mul => .mul
  | div => .div
  | rem => .rem

/-- The exact result on integers; division truncates toward zero, and the remainder has the sign of
the dividend. -/
def onInt : ArithmeticOp → Int → Int → Int
  | add, a, b => a + b
  | sub, a, b => a - b
  | mul, a, b => a * b
  | div, a, b => a.tdiv b
  | rem, a, b => a.tmod b

def divides : ArithmeticOp → Bool
  | div | rem => true
  | _ => false

/-- The rounded result on floating-point numbers, if it is finite. -/
def onBinary64 : ArithmeticOp → Binary64 → Binary64 → Option Binary64
  | add, x, y => x.add y
  | sub, x, y => x.sub y
  | mul, x, y => x.mul y
  | div, x, y => x.div y
  | rem, x, y => x.rem y

/-- The result on integers. It is formed in a wide word and must fit a word in the end. -/
def applyInt (op : ArithmeticOp) (a b : WordInt) : Except EvaluationError Value :=
  if op.divides ∧ b.val = 0 then
    .error (.divideByZero op.toBinaryOp.symbol)
  else
    match WordInt.wide? (op.onInt a.val b.val) with
    | some i => integerResult op.toBinaryOp.symbol i
    | none => .error (.overflow op.toBinaryOp.symbol)

def apply (op : ArithmeticOp) (left right : Value) : Except EvaluationError Value :=
  match left, right with
  | .number (.int a), .number (.int b) => op.applyInt a b
  | .number a, .number b =>
      floatResult op.toBinaryOp.symbol (op.onBinary64 a.toBinary64 b.toBinary64)
  | _, _ =>
      .error (.typeMismatch op.toBinaryOp.symbol "numbers" (Value.kindPair left right))

end ArithmeticOp

namespace BinaryOp

def expectBool (op : BinaryOp) : Value → Except EvaluationError Bool
  | .bool b => .ok b
  | other => .error (.typeMismatch op.symbol "bool" other.typeName)

/-- The result of an operator whose operands are both values. The logical operators expect truth
values here as well. -/
def apply (op : BinaryOp) (left right : Value) : Except EvaluationError Value :=
  match op with
  | eq => .ok (.bool (left.equals right))
  | ne => .ok (.bool !(left.equals right))
  | lt => (Value.order lt left right).map fun o => .bool (o == .lt)
  | le => (Value.order le left right).map fun o => .bool (o != .gt)
  | gt => (Value.order gt left right).map fun o => .bool (o == .gt)
  | ge => (Value.order ge left right).map fun o => .bool (o != .lt)
  | add =>
      if left.isString || right.isString then .ok (.string (left.concatText ++ right.concatText))
      else ArithmeticOp.add.apply left right
  | sub => ArithmeticOp.sub.apply left right
  | mul => ArithmeticOp.mul.apply left right
  | div => ArithmeticOp.div.apply left right
  | rem => ArithmeticOp.rem.apply left right
  | and => do
      let a ← expectBool and left
      let b ← expectBool and right
      return .bool (a && b)
  | or => do
      let a ← expectBool or left
      let b ← expectBool or right
      return .bool (a || b)

/-- The truth value of the first operand at which a logical operator stops. -/
def stopsAt? : BinaryOp → Option Bool
  | and => some false
  | or => some true
  | _ => none

end BinaryOp

end InvocationRouting
