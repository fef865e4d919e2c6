import InvocationRouting.Handler

/-!
# Method — declared handler methods and their identity

A method is identified by its declaring type, its name and the ordered types of its parameters.
Parameter names ride along: they pair arguments with parameters and never tell methods apart.

- `Method.sameAs` : do two declarations identify one method?
- `Method.sameAt` : the same of declarations that are shared;
- `Method.identity` : the part of a declaration that identifies the method;
- `Method.display` : the text of a declaration.
-/

namespace InvocationRouting

structure Parameter where
  name : String
  typeName : String
  deriving DecidableEq

structure Method where
  declaringType : HandlerType
  name : String
  parameters : List Parameter

/-- What identifies a method: its declaring type, its name and its parameter types in order. -/
structure MethodIdentity where
  declaringType : Nat
  name : String
  parameterTypes : List String
  deriving DecidableEq

namespace Method

def parameterNames (method : Method) : List String :=
  method.parameters.map (·.name)

def arity (method : Method) : Nat :=
  method.parameters.length

def identity (method : Method) : MethodIdentity :=
  ⟨method.declaringType.id, method.name, method.parameters.map (·.typeName)⟩

/-- Do both declarations identify one method? Parameter lists of equal length are compared pair by
pair. -/
def sameAs (a b : Method) : Bool :=
  a.declaringType == b.declaringType && a.name == b.name &&
    a.parameters.length == b.parameters.length &&
    (a.parameters.zip b.parameters).all fun pair => pair.1.typeName == pair.2.typeName

instance : BEq Method := ⟨sameAs⟩

/-- Do two places of a store hold one method? Declarations are shared, and one place is not compared
with itself. -/
def sameAt (store : Nat → Method) (p q : Nat) : Bool :=
  p == q || store p == store q

/-- The text of a declaration: `Type::name(parameter: type, …)`. -/
def display (method : Method) : String :=
  method.declaringType.shortName ++ "::" ++ method.name ++ "(" ++
    String.intercalate ", " (method.parameters.map fun p => p.name ++ ": " ++ p.typeName) ++ ")"

def inspect (method : Method) : String :=
  "MethodIdentity(" ++ method.display ++ ")"

end Method
end InvocationRouting
