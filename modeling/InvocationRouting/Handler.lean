/-!
# Handler — handler types and their names

A handler type has an identity and a qualified type name, whose segments are separated by `::` and
may carry generic arguments between angle brackets.

- `HandlerType.shortName` : the last segment before the first generic argument;
- `HandlerType.conventionalName` : the short name without a conventional suffix;
- `RouteHandler` : a handler type together with the name under which it is routed.
-/

namespace InvocationRouting

/-- A handler type. Two types are one exactly when their identities are, whatever their names. -/
structure HandlerType where
  id : Nat
  typeName : String

namespace HandlerType

instance : BEq HandlerType := ⟨fun a b => a.id == b.id⟩

/-- What follows the last separator of path segments, if there is one. -/
def afterLastSeparator? : List Char → Option (List Char)
  | [] => none
  | c :: rest =>
      match afterLastSeparator? rest with
      | some segment => some segment
      | none =>
          match c, rest with
          | ':', ':' :: segment => some segment
          | _, _ => none

/-- The last path segment of a qualified name, up to the first generic argument of the name. -/
def shortNameChars (name : List Char) : List Char :=
  let base := name.takeWhile (· != '<')
  (afterLastSeparator? base).getD base

/-- The last path segment of the type name, up to its first generic argument. -/
def shortName (type : HandlerType) : String :=
  String.ofList (shortNameChars type.typeName.toList)

/-- The suffixes that a conventional name drops, in the order in which they are tried. -/
def conventionalSuffixes : List (List Char) :=
  ["Handler".toList, "Controller".toList]

/-- The name without the suffix, if it ends in it and something is left before it. -/
def dropSuffix? (name suffix : List Char) : Option (List Char) :=
  if suffix.isSuffixOf name && suffix.length < name.length then
    some (name.take (name.length - suffix.length))
  else
    none

def conventionalNameChars (short : List Char) : List Char :=
  (conventionalSuffixes.findSome? (dropSuffix? short)).getD short

/-- The short name without its conventional suffix. A type that is called like a suffix keeps its
name. -/
def conventionalName (type : HandlerType) : String :=
  String.ofList (conventionalNameChars (shortNameChars type.typeName.toList))

def inspect (type : HandlerType) : String :=
  "HandlerType(" ++ type.typeName ++ ")"

end HandlerType

structure RouteHandler where
  type : HandlerType
  /-- The name under which the handler is routed, if it is not the conventional one. -/
  nameOverride : Option String

def RouteHandler.handlerName (handler : RouteHandler) : String :=
  handler.nameOverride.getD handler.type.conventionalName

end InvocationRouting
