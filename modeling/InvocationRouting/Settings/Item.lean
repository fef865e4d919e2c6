import InvocationRouting.Number.Shortest
import InvocationRouting.Settings.Basic
import InvocationRouting.Settings.Entries
import InvocationRouting.Settings.Path

/-!
# Settings.Item — settings as sources give them

Sources give settings as tables of items, some of which have another kind than the setting they are
for. Sources are laid over each other, and the items of the result are fitted to the settings.

- `Item` : an item of a source;
- `Item.assign`, `Item.setPath` : a later source over an earlier one;
- `Item.text?`, `Item.count?`, `Item.policy?` : an item as a text, a count or a policy;
- `Settings.ofItem?` : the settings of a table. Missing ones have their defaults, and names that
  belong to no setting are passed over.
-/

namespace InvocationRouting

/-- An item of a source. What is in a list does not matter, since no setting is a list. -/
inductive Item where
  | null
  | boolean (b : Bool)
  | integer (i : Int)
  | real (x : FloatReading)
  | text (s : String)
  | list
  | table (entries : List (String × Item))

namespace Item

/-! ## Laying one source over another -/

def entries : Item → Entries Item
  | table es => es
  | _ => []

mutual

/-- An item over an earlier one. The entries of tables are laid over each other one by one. -/
def assign (incoming : Item) (existing : Option Item) : Item :=
  match incoming with
  | table es => assignEntries es (existing.getD (table []))
  | other => other

/-- Entries over an earlier item, under their names in lowercase. -/
def assignEntries (incoming : Entries Item) (existing : Item) : Item :=
  match incoming with
  | [] => existing
  | (name, item) :: rest =>
      let name := Casing.lowercase name
      assignEntries rest
        (table (Entries.upsert name (assign item (existing.entries.lookup name)) existing.entries))

end

/-- An item at a path below an earlier item. A place in a list leaves a list. -/
def setPath (incoming : Item) (existing : Option Item) : List PathStep → Item
  | [] => assign incoming existing
  | .name name :: path =>
      let es := (existing.map entries).getD []
      table (Entries.upsert name (setPath incoming (es.lookup name) path) es)
  | .place :: _ => list

def setNamed (root : Item) (entry : String × Item) : Item :=
  setPath entry.2 (some root) (Path.ofName entry.1)

/-! ## Items as values of settings -/

/-- Text of floating-point numbers: never with an exponent, and without a point before nothing. -/
def plainLayout : DecimalLayout where
  positional _ := true
  minFraction := 0

def realText : FloatReading → String
  | .finite x => x.textWith plainLayout
  | .infinite negative => if negative then "-inf" else "inf"
  | .nan => "NaN"

def text? : Item → Option String
  | text s => some s
  | boolean b => some (if b then "true" else "false")
  | integer i => some (toString i)
  | real x => some (realText x)
  | null | list | table _ => none

def greatestCount : Nat := 2 ^ 64 - 1

/-- The count nearest to a floating-point reading; a half goes up, and what is out of range goes to
the end of the range. -/
def nearestCount : FloatReading → Nat
  | .finite x =>
      if x.negative then 0
      else min greatestCount ((2 * x.magnitude + Binary64.unitsPerOne) / (2 * Binary64.unitsPerOne))
  | .infinite negative => if negative then 0 else greatestCount
  | .nan => 0

/-- The count that decimal digits with an optional plus stand for. -/
def countOfText? (s : String) : Option Nat :=
  let digits := match s.toList with
    | '+' :: rest => rest
    | cs => cs
  if digits.isEmpty || !digits.all Char.isDigit then none
  else if Decimal.digitsValue digits ≤ greatestCount then some (Decimal.digitsValue digits)
  else none

/-- The item as a count. Some words stand for one and zero. -/
def count? : Item → Option Nat
  | integer i => if 0 ≤ i ∧ i ≤ greatestCount then some i.toNat else none
  | boolean b => some (if b then 1 else 0)
  | real x => some (nearestCount x)
  | text s =>
      let word := Casing.lowercase s
      if ["true", "on", "yes"].contains word then some 1
      else if ["false", "off", "no"].contains word then some 0
      else countOfText? s
  | null | list | table _ => none

def policyOfName? (s : String) : Option DefaultPolicy :=
  DefaultPolicy.ofName? (Casing.lowercase s)

/-- The item as a policy: its name, or a table with that name alone. -/
def policy? : Item → Option DefaultPolicy
  | text s => policyOfName? s
  | table [(name, _)] => policyOfName? name
  | _ => none

/-- Items are fitted to what is read. -/
def reader : SettingReader Item :=
  ⟨policy?, text?, count?⟩

end Item

def Settings.ofItem? (item : Item) : Option Settings :=
  read? Item.reader fun setting => item.entries.lookup setting.text

end InvocationRouting
