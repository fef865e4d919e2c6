import InvocationRouting.Expr.Basic

/-!
# Expr.Conversion — captured values that are converted when needed

Some captured values are not values of the expression language. They are converted by a deferred
computation, which fails when there is no value form.

- `Convertible` : what may be captured;
- `Convertible.convert` : its value form, or the reason why there is none;
- `Expr.capturedConvertible` : the expression that converts it.
-/

namespace InvocationRouting

inductive Convertible where
  | value (v : Value)
  | float (reading : FloatReading)
  | integer (i : Int)
  | refusing (reason : String)
  /-- A dictionary whose keys need not be strings. -/
  | entries (pairs : List (Value × Value))

namespace Convertible

/-- The text of a dictionary key: strings stand for themselves, booleans and numbers for their
text. -/
def keyText : Value → Except String String
  | .string s => .ok s
  | .bool b => .ok (if b then "true" else "false")
  | .number n => .ok n.text
  | _ => .error "key must be a string"

/-- The value form. A number that is not finite is null, an integer must fit a word, and of
dictionary entries whose keys have one text the last counts. -/
def convert : Convertible → Except String Value
  | value v => .ok v
  | float reading => .ok (Value.ofFloat reading)
  | integer i =>
      match Value.ofInt? i with
      | some v => .ok v
      | none => .error "number out of range"
  | refusing reason => .error reason
  | entries pairs =>
      (pairs.mapM fun pair => (keyText pair.1).map fun key => (key, pair.2)).map Value.ofList

end Convertible

/-- A captured value that is converted when it is evaluated. -/
def Expr.capturedConvertible (name : String) (captured : Convertible) : Expr :=
  .deferred ⟨name, .conversion, captured.convert.mapError .serialization⟩

end InvocationRouting
