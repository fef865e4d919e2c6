/-!
# Settings.Entries — lists of named entries

Tables and environments keep their entries in the order in which the names first came up.

- `Entries.upsert` : writes an entry in place, or appends it.
-/

namespace InvocationRouting

abbrev Entries (α : Type) := List (String × α)

namespace Entries

variable {α : Type}

/-- Writes an entry. An entry that exists keeps its place; otherwise a new one is appended. -/
def upsert (name : String) (a : α) : Entries α → Entries α
  | [] => [(name, a)]
  | entry :: rest =>
      if entry.1 = name then (name, a) :: rest else entry :: upsert name a rest

end Entries

end InvocationRouting
