import InvocationRouting.Route.Key
import InvocationRouting.Value.Inspect
import InvocationRouting.Value.Json

/-!
# Route.Values — the dictionary of route values

A dictionary from route keys to values. Looking up, writing and removing go by the folded key; the
spelling that is kept is the one of the write that created the entry.

- `RouteValues` : entries with pairwise different keys, in the order of their creation;
- `RouteValues.insert`, `insertIfAbsent`, `remove`, `extend`, `ofList` : writing;
- `RouteValues.get?`, `contains`, `sorted` : reading;
- `RouteValues.same` : do two dictionaries hold the same values under the same keys?
- `RowOrder` : an order in which a table hands its rows out;
- `RouteValues.toValue`, `RouteValues.ofValue?` : a dictionary as an object, and back.
-/

namespace InvocationRouting

/-- An entry of a dictionary: a spelling of a key, and a value. -/
abbrev RouteEntry := String × Value

namespace RouteEntry

def foldedKeys (entries : List RouteEntry) : List (List Char) :=
  entries.map fun entry => RouteKey.folded entry.1

def find? (entries : List RouteEntry) (key : String) : Option RouteEntry :=
  entries.find? fun entry => RouteKey.same entry.1 key

/-- Sets the value under a key. An entry that exists keeps its place and spelling; otherwise a new
entry is appended. -/
def set (key : String) (value : Value) : List RouteEntry → List RouteEntry
  | [] => [(key, value)]
  | entry :: rest =>
      if RouteKey.same entry.1 key then (entry.1, value) :: rest else entry :: set key value rest

def erase (entries : List RouteEntry) (key : String) : List RouteEntry :=
  entries.filter fun entry => !RouteKey.same entry.1 key

@[simp] theorem foldedKeys_cons (entry : RouteEntry) (rest : List RouteEntry) :
    foldedKeys (entry :: rest) = RouteKey.folded entry.1 :: foldedKeys rest := rfl

/-- Setting a value adds its folded key exactly when it is new. -/
theorem foldedKeys_set (key : String) (value : Value) (entries : List RouteEntry) :
    foldedKeys (set key value entries) =
      if RouteKey.folded key ∈ foldedKeys entries then foldedKeys entries
      else foldedKeys entries ++ [RouteKey.folded key] := by
  induction entries with
  | nil => rfl
  | cons entry rest ih =>
      by_cases h : RouteKey.folded entry.1 = RouteKey.folded key
      · simp [set, RouteKey.same_iff, h]
      · have h' : ¬ RouteKey.folded key = RouteKey.folded entry.1 := fun e => h e.symm
        have step : set key value (entry :: rest) = entry :: set key value rest := by
          simp [set, RouteKey.same_iff, h]
        rw [step, foldedKeys_cons, foldedKeys_cons, ih]
        by_cases known : RouteKey.folded key ∈ foldedKeys rest <;> simp [known, h']

theorem nodup_foldedKeys_set (key : String) (value : Value) {entries : List RouteEntry}
    (h : (foldedKeys entries).Nodup) : (foldedKeys (set key value entries)).Nodup := by
  rw [foldedKeys_set]
  split
  · exact h
  · next fresh =>
      refine List.nodup_append.2 ⟨h, by simp, ?_⟩
      intro a ha b hb
      rw [List.mem_singleton] at hb
      rintro rfl
      exact fresh (hb ▸ ha)

theorem nodup_foldedKeys_erase (key : String) {entries : List RouteEntry}
    (h : (foldedKeys entries).Nodup) : (foldedKeys (erase entries key)).Nodup :=
  h.sublist (List.filter_sublist.map _)

end RouteEntry

/-- An order in which a table hands its rows out. Nothing is known of it but that every row is
handed out once. -/
structure RowOrder where
  rows : List RouteEntry → List RouteEntry
  complete : ∀ table, (rows table).Perm table

namespace RowOrder

-- A table lists its rows in the order of their names.

def ascending : RowOrder :=
  ⟨id, fun table => .refl table⟩

def descending : RowOrder :=
  ⟨List.reverse, List.reverse_perm⟩

end RowOrder

/-- A dictionary of route values. No two entries are under spellings of one key. -/
structure RouteValues where
  entries : List RouteEntry
  distinct : (RouteEntry.foldedKeys entries).Nodup

namespace RouteValues

def empty : RouteValues :=
  ⟨[], List.nodup_nil⟩

instance : Inhabited RouteValues := ⟨empty⟩

def size (values : RouteValues) : Nat :=
  values.entries.length

def isEmpty (values : RouteValues) : Bool :=
  values.entries.isEmpty

def get? (values : RouteValues) (key : String) : Option Value :=
  (RouteEntry.find? values.entries key).map (·.2)

def spelling? (values : RouteValues) (key : String) : Option String :=
  (RouteEntry.find? values.entries key).map (·.1)

def contains (values : RouteValues) (key : String) : Bool :=
  (values.get? key).isSome

def insert (values : RouteValues) (key : String) (value : Value) : RouteValues :=
  ⟨RouteEntry.set key value values.entries,
    RouteEntry.nodup_foldedKeys_set key value values.distinct⟩

def insertIfAbsent (values : RouteValues) (key : String) (value : Value) : RouteValues :=
  if values.contains key then values else values.insert key value

def remove (values : RouteValues) (key : String) : RouteValues :=
  ⟨RouteEntry.erase values.entries key, RouteEntry.nodup_foldedKeys_erase key values.distinct⟩

def extend (values : RouteValues) (entries : List RouteEntry) : RouteValues :=
  entries.foldl (fun values entry => values.insert entry.1 entry.2) values

/-- The dictionary that results from writing entries one after another. -/
def ofList (entries : List RouteEntry) : RouteValues :=
  empty.extend entries

def sorted (values : RouteValues) : List RouteEntry :=
  values.entries.mergeSort fun a b => decide (a.1 ≤ b.1)

def sortedKeys (values : RouteValues) : List String :=
  values.sorted.map (·.1)

/-- Do both dictionaries have as many entries, and each entry of the first an equal value in the
second? -/
def same (a b : RouteValues) : Bool :=
  a.size == b.size && a.entries.all fun entry =>
    match b.get? entry.1 with
    | some value => entry.2.same value
    | none => false

instance : BEq RouteValues := ⟨same⟩

def toValue (values : RouteValues) : Value :=
  .object values.sorted

/-- The dictionary that an object is read as. Its fields are collected in a table first, where the
last field of a name counts, and the rows of the table are written in the order in which they are
handed out. -/
def ofValue? (order : RowOrder) : Value → Option RouteValues
  | .object fields => some (ofList (order.rows (Fields.ofList fields)))
  | _ => none

def text (values : RouteValues) : String :=
  values.toValue.text

def inspect (values : RouteValues) : String :=
  Inspect.map (Value.inspectFields values.sorted)

end RouteValues
end InvocationRouting
