import InvocationRouting.Settings.Item
import InvocationRouting.Yaml.Node.Reader

/-!
# Settings.Yaml — settings from YAML text

- `Yaml.Node.name?` : a key as the name of an entry;
- `Yaml.Node.item?` : a node as an item;
- `Item.ofYaml?` : the item of a document.
-/

namespace InvocationRouting
namespace Yaml
namespace Node

def name? : Node → Option String
  | text s => some s
  | integer i => some (toString i)
  | boolean b => some (if b then "true" else "false")
  | real s => some s
  | _ => none

mutual

/-- A node as an item. The spellings of floating-point numbers that only YAML has are refused. -/
def item? : Node → Option Item
  | text s => some (.text s)
  | integer i => some (.integer i)
  | boolean b => some (.boolean b)
  | real s => (FloatReading.ofText? s).map .real
  | list elements => if areItems elements then some .list else none
  | mapping pairs => (entries? [] pairs).map .table
  | null | unfit => some .null

def areItems : List Node → Bool
  | [] => true
  | node :: rest => (item? node).isSome && areItems rest

/-- More entries from pairs of a mapping. A later one of the same name holds. -/
def entries? (before : Entries Item) : List (Node × Node) → Option (Entries Item)
  | [] => some before
  | (key, value) :: rest => do
      let name ← key.name?
      let item ← item? value
      entries? (Entries.upsert name item before) rest

end

end Node
end Yaml

def Item.ofYaml? (s : String) : Option Item :=
  (Yaml.Node.ofText? s).bind Yaml.Node.item?

end InvocationRouting
