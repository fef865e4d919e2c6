import InvocationRouting.Hashing

/-!
# Hashing.Table — tables that keep entries in buckets

A hashed table looks for a key in one bucket only, the one that the hash of the key names. Within a
bucket keys are compared one after another. The hash of a key is what its pieces come to, so that
nothing but the contract between comparison and pieces makes keys find their entries.

- `KeyKind.set`, `KeyKind.erase` : writing to one bucket;
- `HashTable`, `HashTable.find?` : buckets, and the entry under a key;
- `TableOperation`, `HashTable.run` : what a sequence of operations leaves behind.
-/

namespace InvocationRouting

variable {κ ν : Type}

namespace KeyKind

/-- Sets the value under a key. An entry that is there keeps the key that it was stored under. -/
def set (kind : KeyKind κ) (key : κ) (value : ν) : List (κ × ν) → List (κ × ν)
  | [] => [(key, value)]
  | entry :: rest =>
      if kind.same entry.1 key then (entry.1, value) :: rest else entry :: set kind key value rest

def erase (kind : KeyKind κ) (key : κ) (entries : List (κ × ν)) : List (κ × ν) :=
  entries.filter fun entry => !kind.same entry.1 key

def find? (kind : KeyKind κ) (entries : List (κ × ν)) (key : κ) : Option (κ × ν) :=
  entries.find? fun entry => kind.same entry.1 key

end KeyKind

/-- A table of entries for one kind of keys and one hasher. -/
structure HashTable (kind : KeyKind κ) (hasher : Hasher) (ν : Type) where
  buckets : Nat → List (κ × ν)

inductive TableOperation (κ ν : Type) where
  | insert (key : κ) (value : ν)
  | remove (key : κ)

def TableOperation.key : TableOperation κ ν → κ
  | insert key _ | remove key => key

def TableOperation.apply (kind : KeyKind κ) : TableOperation κ ν → List (κ × ν) → List (κ × ν)
  | insert key value => kind.set key value
  | remove key => kind.erase key

namespace HashTable

variable {kind : KeyKind κ} {hasher : Hasher}

def bucketOf (kind : KeyKind κ) (hasher : Hasher) (key : κ) : Nat :=
  hasher.hash (kind.hashPieces key)

def empty : HashTable kind hasher ν :=
  ⟨fun _ => []⟩

def find? (table : HashTable kind hasher ν) (key : κ) : Option (κ × ν) :=
  kind.find? (table.buckets (bucketOf kind hasher key)) key

def perform (table : HashTable kind hasher ν) (operation : TableOperation κ ν) :
    HashTable kind hasher ν :=
  ⟨fun number =>
    if number = bucketOf kind hasher operation.key then
      operation.apply kind (table.buckets number)
    else
      table.buckets number⟩

/-- The table after a sequence of operations, at first without entries. -/
def run (kind : KeyKind κ) (hasher : Hasher) (history : List (TableOperation κ ν)) :
    HashTable kind hasher ν :=
  history.foldl perform empty

end HashTable
end InvocationRouting
