import InvocationRouting.Value.Json.Token

/-!
# Json reader — values from JSON text

The reader goes over the lexemes once, with a stack of the containers that are still open.

- `Frame` : an open container;
- `Reading` : what has been read, and what may follow;
- `Value.ofJson?` : the value of a text. Containers may be nested up to a limit, and a field that is
  named twice takes its last value.
-/

namespace InvocationRouting
namespace Json

/-- An open container: the elements read so far, last first, or the fields read so far and the name
of the field whose value is being read. -/
inductive Frame where
  | array (elements : List Value)
  | object (fields : Fields) (name : String)

inductive Reading where
  /-- A value must follow. -/
  | value (stack : List Frame)
  /-- An array was opened: a value or its end must follow. -/
  | firstElement (stack : List Frame)
  /-- An element was read: a comma or the end of the array must follow. -/
  | afterElement (elements : List Value) (stack : List Frame)
  /-- An object was opened: a name or its end must follow. -/
  | firstName (stack : List Frame)
  /-- A comma was read in an object: a name must follow. -/
  | name (fields : Fields) (stack : List Frame)
  /-- A name was read: a colon must follow. -/
  | colon (fields : Fields) (name : String) (stack : List Frame)
  /-- A field was read: a comma or the end of the object must follow. -/
  | afterField (fields : Fields) (stack : List Frame)
  /-- The text is complete. -/
  | done (v : Value)

namespace Reading

def complete (v : Value) : List Frame → Reading
  | [] => done v
  | .array elements :: stack => afterElement (v :: elements) stack
  | .object fields pending :: stack => afterField (fields.insert pending v) stack

def startValue? (limit : Nat) (stack : List Frame) : Token → Option Reading
  | .string s => some (complete (.string s) stack)
  | .scalar v => some (complete v stack)
  | .openArray => if stack.length < limit then some (firstElement stack) else none
  | .openObject => if stack.length < limit then some (firstName stack) else none
  | _ => none

def step? (limit : Nat) : Reading → Token → Option Reading
  | value stack, token => startValue? limit stack token
  | firstElement stack, .closeArray => some (complete (.array []) stack)
  | firstElement stack, token => startValue? limit (.array [] :: stack) token
  | afterElement elements stack, .comma => some (value (.array elements :: stack))
  | afterElement elements stack, .closeArray => some (complete (.array elements.reverse) stack)
  | firstName stack, .closeObject => some (complete (.object []) stack)
  | firstName stack, .string s => some (colon [] s stack)
  | name fields stack, .string s => some (colon fields s stack)
  | colon fields s stack, .colon => some (value (.object fields s :: stack))
  | afterField fields stack, .comma => some (name fields stack)
  | afterField fields stack, .closeObject => some (complete (.object fields) stack)
  | _, _ => none

end Reading

end Json

/-- The value of a JSON text in which at most `limit` containers are open at once. -/
def Value.ofJson? (limit : Nat) (s : String) : Option Value := do
  let tokens ← Json.Token.scan? s.toList
  match ← tokens.foldlM (Json.Reading.step? limit) (.value []) with
  | .done v => some v
  | _ => none

end InvocationRouting
