import InvocationRouting.Text.Inspect
import InvocationRouting.Value.Basic

/-!
# Inspected values — how a value was built, as text

`Value.inspect` names the kind of each part: `Null`, `Bool(true)`, `Number(1)`, `String("x")`,
`Array [..]`, `Object {"k": ..}`.
-/

namespace InvocationRouting
namespace Value

mutual

/-- The structural text of a value. -/
def inspect : Value → String
  | null => "Null"
  | bool b => Inspect.tuple "Bool" [if b then "true" else "false"]
  | number n => Inspect.tuple "Number" [n.text]
  | string s => Inspect.tuple "String" [Inspect.quoted s]
  | array elements => "Array " ++ Inspect.list (inspectElements elements)
  | object fields => "Object " ++ Inspect.map (inspectFields fields)

def inspectElements : List Value → List String
  | [] => []
  | x :: xs => inspect x :: inspectElements xs

def inspectFields : List (String × Value) → List (String × String)
  | [] => []
  | (name, x) :: xs => (name, inspect x) :: inspectFields xs

end

end Value
end InvocationRouting
