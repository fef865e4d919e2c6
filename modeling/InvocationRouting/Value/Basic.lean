import InvocationRouting.Number.Basic

/-!
# Value — the values that arguments, defaults and constants take

A value is null, a boolean, a number, a string, an array or an object. The fields of an object are
kept sorted by name, each name once; `Fields.insert` is the only way to build them.

- `Value.typeName` : the name of the kind of a value, as messages give it;
- `Value.same` : structural equality, where numbers are compared within their kind;
- `Fields.insert`, `Fields.get?`, `Fields.ofList` : the fields of an object.
-/

namespace InvocationRouting

inductive Value where
  | null
  | bool (b : Bool)
  | number (n : Number)
  | string (s : String)
  | array (elements : List Value)
  | object (fields : List (String × Value))

/-- Named values in the order of their names. -/
abbrev Fields := List (String × Value)

namespace Fields

/-- Sets a field; an earlier field of the same name is replaced. -/
def insert (name : String) (value : Value) : Fields → Fields
  | [] => [(name, value)]
  | field :: rest =>
      if name = field.1 then (name, value) :: rest
      else if name < field.1 then (name, value) :: field :: rest
      else field :: insert name value rest

def get? (fields : Fields) (name : String) : Option Value :=
  fields.lookup name

def ofList (entries : List (String × Value)) : Fields :=
  entries.foldl (fun fields entry => fields.insert entry.1 entry.2) []

end Fields

namespace Value

def ofInt? (i : Int) : Option Value :=
  (WordInt.ofInt? i).map fun w => number (.int w)

/-- The number of a finite floating-point reading, and null otherwise. -/
def ofFloat (reading : FloatReading) : Value :=
  match reading.finite? with
  | some x => number (.float x)
  | none => null

/-- The object with the given entries; a later entry replaces an earlier one of the same name. -/
def ofList (entries : List (String × Value)) : Value :=
  object (Fields.ofList entries)

def isNull : Value → Bool
  | null => true
  | _ => false

def isString : Value → Bool
  | string _ => true
  | _ => false

def number? : Value → Option Number
  | number n => some n
  | _ => none

def typeName : Value → String
  | null => "null"
  | bool _ => "bool"
  | number _ => "number"
  | string _ => "string"
  | array _ => "array"
  | object _ => "object"

mutual

def same : Value → Value → Bool
  | null, null => true
  | bool a, bool b => a == b
  | number a, number b => a.identical b
  | string a, string b => a == b
  | array xs, array ys => sameElements xs ys
  | object xs, object ys => sameFields xs ys
  | _, _ => false

def sameElements : List Value → List Value → Bool
  | [], [] => true
  | x :: xs, y :: ys => same x y && sameElements xs ys
  | _, _ => false

def sameFields : List (String × Value) → List (String × Value) → Bool
  | [], [] => true
  | (name, x) :: xs, (name', y) :: ys => name == name' && same x y && sameFields xs ys
  | _, _ => false

end

instance : BEq Value := ⟨same⟩

instance : Inhabited Value := ⟨null⟩

end Value

end InvocationRouting
