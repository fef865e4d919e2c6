import InvocationRouting.Value.Json.Token
import InvocationRouting.Yaml.Cursor

/-!
# Yaml.Tag — tags as they are written, and directives

- `Tag` : a tag, by a handle and what follows it;
- `Cursor.tag?` : reads a tag;
- `Directive`, `Cursor.directive?` : a line that says something about the document below it.
-/

namespace InvocationRouting
namespace Yaml

/-- A tag: a name in the space of names that the handle stands for. -/
structure Tag where
  handle : String
  name : String
  deriving DecidableEq

/-- Does the handle have a mark at both ends, so that it must be declared unless it is the secondary
one? -/
def isNamedHandle (handle : List Char) : Bool :=
  2 ≤ handle.length && handle.head? == some '!' && handle.getLast? == some '!'

namespace Cursor

/-- The position behind characters of a kind, with the characters. -/
def run (kind : Char → Bool) (c : Cursor) : List Char × Cursor :=
  let chars := c.rest.takeWhile kind
  (chars, c.visible chars.length)

/-- The character of octets behind percent signs, and how many characters these are. Two octets are
taken as the upper and the lower half of a number, and more make no character. -/
def octets? : List Char → Option (Char × Nat)
  | '%' :: a :: b :: rest => do
      let first ← Json.Token.hexNumber? [a, b]
      if first < 0x80 then
        return (Char.ofNat first, 3)
      else if 0xC0 ≤ first ∧ first < 0xE0 then
        match rest with
        | '%' :: a :: b :: _ => do
            let second ← Json.Token.hexNumber? [a, b]
            let n := 256 * first + second
            if 0x80 ≤ second ∧ second < 0xC0 ∧ n.isValidChar then some (Char.ofNat n, 6) else none
        | _ => none
      else
        none
  | _ => none

/-- Characters of a kind, of which there are at most `fuel`, where octets are decoded. -/
def identifier? (kind : Char → Bool) : Nat → List Char → Cursor → Option (List Char × Cursor)
  | 0, text, c => some (text, c)
  | fuel + 1, text, c =>
      match c.rest with
      | [] => some (text, c)
      | x :: _ =>
          if !kind x then
            some (text, c)
          else if x == '%' then do
            let (meant, count) ← octets? c.rest
            identifier? kind fuel (text ++ [meant]) (c.visible count)
          else
            identifier? kind fuel (text ++ [x]) (c.visible 1)

/-- The handle of a tag: a mark, a name that may be missing, and another mark that may be missing.
-/
def handle? (c : Cursor) : Option (List Char × Cursor) :=
  if c.peek? == some '!' then
    let (name, next) := (c.visible 1).run isWordChar
    if next.peek? == some '!' then some ('!' :: name ++ ['!'], next.visible 1)
    else some ('!' :: name, next)
  else
    none

def verbatimTag? (c : Cursor) : Option (Tag × Cursor) := do
  let (name, c) ← (c.visible 2).identifier? isUriChar c.rest.length []
  if c.peek? == some '>' then some (⟨"", String.ofList name⟩, c.visible 1) else none

/-- A tag with a handle. What looks like a handle without its second mark is the start of a name,
and a mark alone is a name. -/
def shorthandTag? (c : Cursor) : Option (Tag × Cursor) := do
  let (handle, c) ← c.handle?
  let start := if isNamedHandle handle then [] else handle.drop 1
  let (name, c) ← c.identifier? isTagChar c.rest.length start
  match isNamedHandle handle, name with
  | true, [] => none
  | true, name => return (⟨String.ofList handle, String.ofList name⟩, c)
  | false, [] => return (⟨"", "!"⟩, c)
  | false, name => return (⟨"!", String.ofList name⟩, c)

/-- A tag. It is followed by a blank, by the end of the line, or in a flow collection by one of its
indicators. -/
def tag? (c : Cursor) (inFlow : Bool) : Option (Tag × Cursor) := do
  let (tag, next) ← if c.second? == some '<' then c.verbatimTag? else c.shorthandTag?
  if endsWord next.peek? || (inFlow && next.peek?.any isFlow) then some (tag, next) else none

end Cursor

/-- A line that says something about the document below it. -/
inductive Directive where
  | version
  /-- The space of names that a handle stands for. -/
  | space (handle meaning : String)
  deriving DecidableEq

namespace Cursor

def versionPart? (c : Cursor) : Option Cursor :=
  let (digits, next) := c.run Char.isDigit
  if digits.isEmpty || 9 < digits.length then none else some next

def version? (c : Cursor) : Option (Directive × Cursor) := do
  let c ← c.skipBlanks.versionPart?
  if c.peek? == some '.' then
    return (.version, ← (c.visible 1).versionPart?)
  else
    none

def space? (c : Cursor) : Option (Directive × Cursor) := do
  let (handle, c) ← c.skipBlanks.handle?
  if !(handle == ['!'] || isNamedHandle handle) then failure
  let c := c.skipBlanks
  if !(c.peek?.any fun x => x == '!' || isTagChar x) then failure
  let (meaning, c) ← c.identifier? isUriChar c.rest.length []
  if endsWord c.peek? then some (.space (String.ofList handle) (String.ofList meaning), c) else none

/-- A directive and the start of the next line. One of an unknown name declares that the empty
handle stands for itself. -/
def directive? (c : Cursor) : Option (Directive × Cursor) := do
  let (name, c) := (c.visible 1).run isWordChar
  if name.isEmpty || !endsWord c.peek? then failure
  let (directive, c) ←
    if name = "YAML".toList then c.version?
    else if name = "TAG".toList then c.space?
    else some (.space "" "", c.skipLine)
  let c ← c.restOfLine?
  if endsLine c.peek? then some (directive, c.passBreak) else none

end Cursor

end Yaml
end InvocationRouting
