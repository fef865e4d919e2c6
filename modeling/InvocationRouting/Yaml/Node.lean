import InvocationRouting.Number.Decimal
import InvocationRouting.Value.Json.Token
import InvocationRouting.Yaml.Tag

/-!
# Yaml.Node — what YAML text stands for

- `Node` : scalars, lists and mappings;
- `Node.same` : equality of nodes, which decides whether two keys are one;
- `Node.ofWord` : a scalar without quotes and without a tag;
- `Node.ofScalar` : any scalar;
- `Node.mapping?` : a mapping from its keys and values.
-/

namespace InvocationRouting
namespace Yaml

/-- What a part of a text stands for. Floating-point numbers are kept as they are written. -/
inductive Node where
  | null
  | boolean (b : Bool)
  | integer (i : Int)
  | real (text : String)
  | text (s : String)
  | list (elements : List Node)
  | mapping (pairs : List (Node × Node))
  /-- A scalar that does not fit its tag, or a reference to a node that is not complete yet. -/
  | unfit

namespace Node

mutual

/-- Are two nodes equal? Numbers are if they are written in the same way, and mappings if they have
the same order. -/
def same : Node → Node → Bool
  | null, null => true
  | boolean a, boolean b => a == b
  | integer i, integer j => i == j
  | real x, real y => x == y
  | text s, text t => s == t
  | list xs, list ys => sameList xs ys
  | mapping xs, mapping ys => samePairs xs ys
  | unfit, unfit => true
  | _, _ => false

def sameList : List Node → List Node → Bool
  | [], [] => true
  | x :: xs, y :: ys => same x y && sameList xs ys
  | _, _ => false

def samePairs : List (Node × Node) → List (Node × Node) → Bool
  | [], [] => true
  | (k, x) :: xs, (l, y) :: ys => same k l && same x y && samePairs xs ys
  | _, _ => false

end

/-! ## Scalars -/

/-- An integer in a base with an optional sign that fits a signed word. -/
def integer? (base : Nat) (cs : List Char) : Option Int := do
  let (negative, digits) := Decimal.splitSign cs
  if digits.isEmpty then failure
  let magnitude ← digits.foldlM (fun value c => do
    let digit ← Json.Token.hexValue? c
    if digit < base then some (base * value + digit) else none) 0
  let i : Int := if negative then -(magnitude : Int) else magnitude
  if -2 ^ 63 ≤ i ∧ i < 2 ^ 63 then some i else none

/-- An integer with a mark for its base, or with a plus that may stand before another sign. -/
def markedInteger? : List Char → Option Int
  | '0' :: 'x' :: digits => integer? 16 digits
  | '0' :: 'o' :: digits => integer? 8 digits
  | '+' :: digits => integer? 10 digits
  | _ => none

/-- The spellings of infinities and NaN with a point, and the one of NaN that has none. -/
def specialFloats : List String :=
  [".inf", ".Inf", ".INF", "+.inf", "+.Inf", "+.INF", "-.inf", "-.Inf", "-.INF", ".nan", "NaN",
    ".NAN"]

def isFloat (s : String) : Bool :=
  specialFloats.contains s || (FloatReading.ofText? s).isSome

def ofWord (s : String) : Node :=
  match markedInteger? s.toList with
  | some i => integer i
  | none =>
      if s = "" ∨ s = "~" ∨ s = "null" then null
      else if s = "true" then boolean true
      else if s = "false" then boolean false
      else
        match integer? 10 s.toList with
        | some i => integer i
        | none => if isFloat s then real s else text s

/-- The space of names of the tags that are defined for all documents. -/
def coreSpace : String := "tag:yaml.org,2002:"

/-- A scalar without quotes and with one of the tags that are defined for all documents. -/
def ofCoreTag (name s : String) : Node :=
  if name = "bool" then
    if s = "true" then boolean true else if s = "false" then boolean false else unfit
  else if name = "int" then
    match integer? 10 s.toList with
    | some i => integer i
    | none => unfit
  else if name = "float" then
    if isFloat s then real s else unfit
  else if name = "null" then
    if s = "~" ∨ s = "null" then null else unfit
  else
    text s

/-- A scalar. Quotes, indented lines, and tags that are not defined for all documents make a
text. -/
def ofScalar (isPlain : Bool) (tag : Option Tag) (s : String) : Node :=
  match isPlain, tag with
  | false, _ => text s
  | true, none => ofWord s
  | true, some tag => if tag.handle = coreSpace then ofCoreTag tag.name s else text s

/-! ## Mappings -/

/-- More pairs of a mapping, from keys and values in turn. A key that is unfit is passed over, so
that the node behind it is the key, and no key may come twice. -/
def pairs? (before : List (Node × Node)) : List Node → Option (List (Node × Node))
  | [] => some before
  | [_] => some before
  | unfit :: rest => pairs? before rest
  | key :: value :: rest =>
      if before.any fun pair => same pair.1 key then none
      else pairs? (before ++ [(key, value)]) rest

def mapping? (nodes : List Node) : Option Node :=
  (pairs? [] nodes).map mapping

end Node

end Yaml
end InvocationRouting
